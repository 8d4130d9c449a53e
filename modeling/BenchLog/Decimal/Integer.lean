/-!
# Integer literals

A literal is a run of decimal digits after an optional sign, and it has to fit a machine word. Digits
are read from the left, and the first thing that goes wrong, be it a character or the size, is the fault.
-/

namespace BenchLog.Decimal

/-- Why a text is no integer literal of a range. -/
inductive IntegerFault where
  | empty
  | invalidDigit
  | tooLarge
  | tooSmall
  deriving DecidableEq, Repr

namespace IntegerFault

/-- The fault as a message has it. -/
def message : IntegerFault → String
  | .empty => "cannot parse integer from empty string"
  | .invalidDigit => "invalid digit found in string"
  | .tooLarge => "number too large to fit in target type"
  | .tooSmall => "number too small to fit in target type"

end IntegerFault

/-- The value of a decimal digit. -/
def digit? (c : Char) : Option Nat :=
  if '0' ≤ c ∧ c ≤ '9' then some (c.toNat - '0'.toNat) else none

/-- Append one digit to a number that must not pass `limit`. -/
def appendDigit (limit : Nat) (overflow : IntegerFault) (total : Nat) (c : Char) :
    Except IntegerFault Nat :=
  match digit? c with
  | none => .error .invalidDigit
  | some d => if total * 10 + d ≤ limit then .ok (total * 10 + d) else .error overflow

/-- The number written by a run of digits, none of whose prefixes passes `limit`. -/
def readDigits (limit : Nat) (overflow : IntegerFault) (digits : List Char) :
    Except IntegerFault Nat :=
  digits.foldlM (appendDigit limit overflow) 0

/-- An unsigned literal with values up to `limit`. A plus sign may lead, a minus sign is no digit. -/
def readUnsigned (limit : Nat) (text : List Char) : Except IntegerFault Nat :=
  match text with
  | [] => .error .empty
  | ['+'] => .error .invalidDigit
  | '+' :: digits => readDigits limit .tooLarge digits
  | digits => readDigits limit .tooLarge digits

/-- A signed literal with values from `-limit - 1` to `limit`. -/
def readSigned (limit : Nat) (text : List Char) : Except IntegerFault Int :=
  match text with
  | ['-'] => .error .invalidDigit
  | '-' :: digits => return -(← readDigits (limit + 1) .tooSmall digits : Nat)
  | text => return (← readUnsigned limit text : Nat)

/-- The greatest unsigned number of 8 bits. -/
def byteLimit : Nat := Nat.pow 2 8 - 1

/-- The greatest unsigned number of 64 bits. -/
def wordLimit : Nat := Nat.pow 2 64 - 1

/-- The greatest signed number of 64 bits. -/
def signedLimit : Nat := Nat.pow 2 63 - 1

end BenchLog.Decimal
