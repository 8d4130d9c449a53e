import BenchLog.Calendar
import BenchLog.Decimal.Literal
import BenchLog.Toml.Text
import BenchLog.Toml.Value

/-!
# TOML numbers, dates and times

Digits may be set apart by single underscores. A decimal integer has no leading zero and lies in 64
bits with sign. Dates are days of the calendar.
-/

namespace BenchLog.Toml.Reader

/-- Digits with underscores between them, which are left out. -/
def digitRun (p : Char → Bool) : Reader (List Char) := do
  let parts := (← takeWhile fun c => p c || c == '_').splitOnP (· == '_')
  if parts.any List.isEmpty then failure else return parts.flatten

/-- A plus sign, a minus sign or none. -/
def signMark : Reader (List Char) := do
  if ← accept ['-'] then return ['-']
  else if ← accept ['+'] then return ['+']
  else return []

/-- Decimal digits without a leading zero. -/
def decimalDigits : Reader (List Char) := do
  let digits ← digitRun Decimal.isDigit
  if digits.head? = some '0' ∧ 1 < digits.length then failure else return digits

/-- An integer written in the given base after its mark. -/
def based (base : Nat) (p : Char → Bool) : Reader Value := do
  let value := digitsIn base (← digitRun p)
  if value ≤ Decimal.signedLimit then return .integer value else failure

/-- An integer. -/
def integer : Reader Value := do
  if ← accept ['0', 'x'] then based 16 fun c => (hexDigit? c).isSome
  else if ← accept ['0', 'o'] then based 8 fun c => '0' ≤ c ∧ c ≤ '7'
  else if ← accept ['0', 'b'] then based 2 fun c => c == '0' || c == '1'
  else
    let mark ← signMark
    match Decimal.readSigned Decimal.signedLimit (mark ++ (← decimalDigits)) with
    | .ok value => return .integer value
    | .error _ => failure

/-- The fraction of a number, with its point. -/
def fraction : Reader (List Char) := do
  expect '.'
  return '.' :: (← digitRun Decimal.isDigit)

/-- The exponent of a number, with its mark. -/
def exponent : Reader (List Char) := do
  let mark ← next
  if mark = 'e' ∨ mark = 'E' then
    let sign ← signMark
    return mark :: sign ++ (← digitRun Decimal.isDigit)
  else
    failure

/-- A number with a fraction or an exponent. A number too great for any finite one is refused. -/
def decimalFloat : Reader Value := do
  let mark ← signMark
  let whole ← decimalDigits
  let fraction? ← optional fraction
  let exponent? ← optional exponent
  if fraction?.isNone ∧ exponent?.isNone then failure
  match Decimal.readFloat (mark ++ whole ++ fraction?.getD [] ++ exponent?.getD []) with
  | .ok value => if value == 1 / 0 then failure else return .float value
  | .error _ => failure

/-- Infinity, or what is not a number. -/
def namedFloat : Reader Value := do
  let mark ← signMark
  if ← accept ['i', 'n', 'f'] then return .float (if mark = ['-'] then -1 / 0 else 1 / 0)
  else if ← accept ['n', 'a', 'n'] then return .float (0 / 0)
  else failure

/-- A number of so many digits within bounds. -/
def bounded (count low high : Nat) : Reader Nat := do
  let value := digitsIn 10 (← exactly count Decimal.isDigit)
  if low ≤ value ∧ value ≤ high then return value else failure

/-- A day of the calendar. -/
def date : Reader Unit := do
  let year ← bounded 4 0 9999
  expect '-'
  let month ← bounded 2 1 12
  expect '-'
  let _ ← bounded 2 1 (Date.daysInMonth year month)

/-- A time of the day. A minute may have a leap second, and a second a fraction. -/
def time : Reader Unit := do
  let _ ← bounded 2 0 23
  expect ':'
  let _ ← bounded 2 0 59
  expect ':'
  let _ ← bounded 2 0 60
  let _ ← optional fractionOfSecond
where
  fractionOfSecond : Reader Unit := do
    expect '.'
    if (← takeWhile Decimal.isDigit).isEmpty then failure

/-- How far the clock is from universal time. -/
def offset : Reader Unit := do
  let mark ← next
  if mark = '+' ∨ mark = '-' then
    let _ ← bounded 2 0 23
    expect ':'
    let _ ← bounded 2 0 59
  else if mark ≠ 'Z' ∧ mark ≠ 'z' then
    failure

/-- The time that follows a date, after a letter or a space. -/
def timeOfDate : Reader Unit := do
  let mark ← next
  if mark = 'T' ∨ mark = 't' ∨ mark = ' ' then
    time
    let _ ← optional offset
  else
    failure

/-- A date, a time or both. -/
def moment : Reader Value := do
  let input ← get
  (do
    date
    let _ ← optional timeOfDate) <|> time
  return .moment (String.ofList (input.take (input.length - (← get).length)))

/-- A number, a date or a time. -/
def number : Reader Value :=
  moment <|> decimalFloat <|> namedFloat <|> integer

end BenchLog.Toml.Reader
