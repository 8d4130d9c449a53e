/-!
# Floating-point numbers taken apart

A finite number is a sign and `significand * 2 ^ exponent`, read from the 64 bits of the number. All
text of numbers, and every rounding to integers, is computed from these parts in whole numbers.
-/

namespace BenchLog.Decimal

/-- What a floating-point number holds. -/
inductive Parts where
  | nan
  | infinite (negative : Bool)
  | finite (negative : Bool) (significand : Nat) (exponent : Int)
  deriving DecidableEq, Repr

/-- The least exponent, that of the subnormal numbers. -/
def leastExponent : Int := -1074

/-- The parts of a number: one sign bit, eleven bits of exponent and 52 bits of significand, to which
    every number but the subnormal ones adds a leading bit. -/
def Parts.ofFloat (x : Float) : Parts :=
  let bits := x.toBits.toNat
  let negative := bits / Nat.pow 2 63 == 1
  let biased := bits / Nat.pow 2 52 % Nat.pow 2 11
  let field := bits % Nat.pow 2 52
  if biased = 2047 then
    if field = 0 then .infinite negative else .nan
  else if biased = 0 then
    .finite negative field leastExponent
  else
    .finite negative (field + Nat.pow 2 52) (leastExponent + (biased - 1 : Nat))

/-- The fraction `num / den` that equals `significand * 2 ^ exponent`. -/
def dyadic (significand : Nat) (exponent : Int) : Nat × Nat :=
  if exponent < 0 then (significand, Nat.pow 2 exponent.natAbs)
  else (significand * Nat.pow 2 exponent.natAbs, 1)

/-- The greatest integer that is at most the number; none for infinity and what is not a number. -/
def floor? (x : Float) : Option Int :=
  match Parts.ofFloat x with
  | .finite negative significand exponent =>
    let (num, den) := dyadic significand exponent
    some (if negative then -((num + den - 1) / den : Nat) else (num / den : Nat))
  | _ => none

/-- The least integer that is at least the number; none for infinity and what is not a number. -/
def ceil? (x : Float) : Option Int :=
  (floor? (-x)).map (-·)

/-- Whether the number is an integer. -/
def isIntegral (x : Float) : Bool :=
  (floor? x).isSome && floor? x == ceil? x

end BenchLog.Decimal
