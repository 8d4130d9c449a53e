import BenchLog.Decimal.Integer

/-!
# Floating-point literals

An optional sign, then a number with an optional fraction and an optional exponent, or one of the words
for infinity and for what is not a number, in any case. The value is the nearest floating-point number.
-/

namespace BenchLog.Decimal

/-- Why a text is no floating-point literal. -/
inductive FloatFault where
  | empty
  | invalid
  deriving DecidableEq, Repr

namespace FloatFault

/-- The fault as a message has it. -/
def message : FloatFault → String
  | .empty => "cannot parse float from empty string"
  | .invalid => "invalid float literal"

end FloatFault

/-- The number that a run of digits writes. -/
def digitsValue (digits : List Char) : Nat :=
  digits.foldl (fun total c => total * 10 + (digit? c).getD 0) 0

/-- The floating-point number nearest to `significand * 10 ^ exponent`. Beyond the range of finite
    numbers the answer is known from the number of digits, and no power of ten is formed. -/
def nearest (significand : Nat) (exponent : Int) : Float :=
  let digits : Int := (Nat.toDigits 10 significand).length
  if significand = 0 then 0
  else if digits - 1 + exponent ≥ 309 then 1 / 0
  else if digits + exponent ≤ -324 then 0
  else if exponent < 0 then Float.ofScientific significand true exponent.natAbs
  else Float.ofScientific significand false exponent.natAbs

/-- Whether a character is a decimal digit. -/
def isDigit (c : Char) : Bool := (digit? c).isSome

/-- The exponent that ends a literal: none at all, or a marker and a signed run of digits. -/
def readExponent? : List Char → Option Int
  | [] => some 0
  | marker :: rest =>
    if marker = 'e' ∨ marker = 'E' then
      let (negative, digits) :=
        match rest with
        | '-' :: digits => (true, digits)
        | '+' :: digits => (false, digits)
        | digits => (false, digits)
      if digits ≠ [] ∧ digits.all isDigit then
        some (if negative then -(digitsValue digits : Int) else digitsValue digits)
      else none
    else none

/-- A number without sign: digits with at most one point among them, then the exponent. -/
def readNumber? (text : List Char) : Option Float :=
  let whole := text.takeWhile isDigit
  let rest := text.dropWhile isDigit
  let (fraction, rest) :=
    match rest with
    | '.' :: rest => (rest.takeWhile isDigit, rest.dropWhile isDigit)
    | rest => ([], rest)
  if whole = [] ∧ fraction = [] then none
  else do
    let exponent ← readExponent? rest
    return nearest (digitsValue (whole ++ fraction)) (exponent - fraction.length)

/-- Infinity and what is not a number, by name. -/
def readName? (text : List Char) : Option Float :=
  let name := String.ofList (text.map Char.toLower)
  if name = "inf" ∨ name = "infinity" then some (1 / 0)
  else if name = "nan" then some (0 / 0)
  else none

/-- A literal without sign. -/
def readMagnitude? (text : List Char) : Option Float :=
  (readNumber? text).or (readName? text)

/-- A floating-point literal. -/
def readFloat (text : List Char) : Except FloatFault Float :=
  let magnitude? :=
    match text with
    | '-' :: rest => (readMagnitude? rest).map (-·)
    | '+' :: rest => readMagnitude? rest
    | text => readMagnitude? text
  match magnitude? with
  | some value => .ok value
  | none => .error (if text.isEmpty then .empty else .invalid)

end BenchLog.Decimal
