import BenchLog.Decimal.Shortest

/-!
# Written numbers

A number is written with its shortest digits, either with the point in place or with an exponent. A
style says which, and what surrounds the digits.
-/

namespace BenchLog.Decimal

/-- How a floating-point number is written. -/
structure Style where
  /-- Whether the point is put in place, for a number whose point stands after so many digits. -/
  positional : Int → Bool
  /-- Whether an integer ends in a point and a zero. -/
  wholeFraction : Bool
  /-- Which of two shortest decimals is written if both are equally near. -/
  tie : Tie

/-- The sign in front of a number. -/
def sign (negative : Bool) : String :=
  if negative then "-" else ""

/-- Digits with the point after `point` of them; zeros fill what the digits do not reach. -/
def writePositional (wholeFraction : Bool) (digits : List Char) (point : Int) : String :=
  let tail := if wholeFraction then ['.', '0'] else []
  String.ofList <|
    if point ≤ 0 then
      ['0', '.'] ++ List.replicate point.natAbs '0' ++ digits
    else if digits.length ≤ point.natAbs then
      digits ++ List.replicate (point.natAbs - digits.length) '0' ++ tail
    else
      digits.take point.natAbs ++ '.' :: digits.drop point.natAbs

/-- One digit before the point, and the power of ten with its sign. -/
def writeExponent (digits : List Char) (point : Int) : String :=
  let mantissa :=
    match digits with
    | first :: second :: rest => first :: '.' :: second :: rest
    | digits => digits
  let power := point - 1
  String.ofList mantissa ++ "e" ++ (if power < 0 then "-" else "+") ++ toString power.natAbs

namespace Style

/-- A number without its sign. -/
def magnitude (style : Style) (significand : Nat) (exponent : Int) : String :=
  let scaled := shortest style.tie significand exponent
  if scaled.digits = 0 then
    if style.wholeFraction then "0.0" else "0"
  else
    let digits := Nat.toDigits 10 scaled.digits
    let point := scaled.exponent + digits.length
    if style.positional point then writePositional style.wholeFraction digits point
    else writeExponent digits point

/-- A number with its sign. -/
def write (style : Style) (x : Float) : String :=
  match Parts.ofFloat x with
  | .nan => "NaN"
  | .infinite negative => sign negative ++ "inf"
  | .finite negative significand exponent => sign negative ++ style.magnitude significand exponent

end Style

/-- Messages write a number without exponent and an integer without point. Of two shortest decimals that
    are equally near, the greater one is written. -/
def plain : Style where
  positional := fun _ => true
  wholeFraction := false
  tie := .up

end BenchLog.Decimal
