/-!
# Rounding to the nearest integer

A quotient is rounded to the nearest integer, and a rule says where a quotient goes that lies halfway
between two.
-/

namespace BenchLog.Decimal

/-- Where a number goes that lies halfway between two integers. -/
inductive Tie where
  /-- To the even one. -/
  | toEven
  /-- To the greater one. -/
  | up
  deriving DecidableEq, Repr

/-- The integer for a number halfway between `below` and its successor. -/
def Tie.choose (tie : Tie) (below : Nat) : Nat :=
  match tie with
  | .toEven => below + below % 2
  | .up => below + 1

/-- The integer nearest to `num / den`. -/
def roundDiv (tie : Tie) (num den : Nat) : Nat :=
  let below := num / den
  let rest := 2 * (num % den)
  if rest < den then below
  else if den < rest then below + 1
  else tie.choose below

end BenchLog.Decimal
