import BenchLog.Decimal.Style

/-!
# Numbers with fixed places

A number is rounded to so many places after the point; a half goes to the even neighbour. The sign is
kept even where all digits become zero.
-/

namespace BenchLog.Decimal

/-- Digits of `n`, at least so many, zeros in front. -/
def padded (width n : Nat) : List Char :=
  let digits := Nat.toDigits 10 n
  List.replicate (width - digits.length) '0' ++ digits

/-- The number `units / 10 ^ places`, with exactly so many places. -/
def writeUnits (places units : Nat) : String :=
  if places = 0 then toString units
  else
    toString (units / Nat.pow 10 places) ++ "." ++
      String.ofList (padded places (units % Nat.pow 10 places))

/-- A number with fixed places. -/
def writePlaces (places : Nat) (x : Float) : String :=
  match Parts.ofFloat x with
  | .nan => "NaN"
  | .infinite negative => sign negative ++ "inf"
  | .finite negative significand exponent =>
    let (num, den) := dyadic significand exponent
    sign negative ++ writeUnits places (roundDiv .toEven (num * Nat.pow 10 places) den)

end BenchLog.Decimal
