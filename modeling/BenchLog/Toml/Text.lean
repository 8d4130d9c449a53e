import BenchLog.Toml.Reader

/-!
# TOML texts and keys

Texts stand between quotes. Between double quotes a backslash escapes, between single quotes all is as
it is written. Three quotes open a text of several lines. A key is a bare word or a text of one line,
and a dotted key is a row of keys.
-/

namespace BenchLog.Toml.Reader

/-- The value of a hexadecimal digit. -/
def hexDigit? (c : Char) : Option Nat :=
  if '0' ≤ c ∧ c ≤ '9' then some (c.toNat - '0'.toNat)
  else if 'a' ≤ c ∧ c ≤ 'f' then some (c.toNat - 'a'.toNat + 10)
  else if 'A' ≤ c ∧ c ≤ 'F' then some (c.toNat - 'A'.toNat + 10)
  else none

/-- The number that digits write in a base. -/
def digitsIn (base : Nat) (digits : List Char) : Nat :=
  digits.foldl (fun total c => total * base + (hexDigit? c).getD 0) 0

/-- A character given by so many hexadecimal digits. -/
def codePoint (count : Nat) : Reader Char := do
  let value := digitsIn 16 (← exactly count fun c => (hexDigit? c).isSome)
  if value.isValidChar then return Char.ofNat value else failure

/-- What follows the backslash of an escape. -/
def escaped : Reader Char := do
  match ← next with
  | 'b' => return '\x08'
  | 't' => return '\t'
  | 'n' => return '\n'
  | 'f' => return '\x0c'
  | 'r' => return '\r'
  | '"' => return '"'
  | '\\' => return '\\'
  | 'u' => codePoint 4
  | 'U' => codePoint 8
  | _ => failure

/-- A run of at least one character that is written as it is. -/
def plainRun (p : Char → Bool) : Reader (List Char × Bool) := do
  let run ← takeWhile p
  if run.isEmpty then failure else return (run, false)

/-- A text of one line between double quotes, after the first of them. -/
def basicText : Reader (List Char) :=
  gather do
    if ← accept ['"'] then return ([], true)
    else if ← accept ['\\'] then return ([← escaped], false)
    else plainRun fun c => isPlain c && c != '"' && c != '\\'

/-- A text of one line between single quotes, after the first of them. -/
def literalText : Reader (List Char) :=
  gather do
    if ← accept ['\''] then return ([], true)
    else plainRun fun c => isPlain c && c != '\''

/-- Quotes inside a text of several lines. Up to two belong to the text, three end it, and up to two
    more right before the end belong to the text again. -/
def quotes (quote : Char) : Reader (List Char × Bool) := do
  let run ← takeWhile (· == quote)
  if run.length < 3 then return (run, false)
  else if run.length ≤ 5 then return (run.drop 3, true)
  else failure

/-- A backslash at the end of a line takes away the line end and all blanks and line ends after it; any
    other backslash escapes a character. -/
def continued : Reader (List Char × Bool) := do
  let input ← get
  blanks
  if ← newline then
    let _ : List Unit ← gather do
      blanks
      return ([], !(← newline))
    return ([], false)
  else
    set input
    return ([← escaped], false)

/-- A text of several lines between double quotes, after the first three of them. -/
def basicLines : Reader (List Char) := do
  let _ ← newline
  gather do
    if (← peek?) == some '"' then quotes '"'
    else if ← accept ['\\'] then continued
    else if ← newline then return (['\n'], false)
    else plainRun fun c => isPlain c && c != '"' && c != '\\'

/-- A text of several lines between single quotes, after the first three of them. -/
def literalLines : Reader (List Char) := do
  let _ ← newline
  gather do
    if (← peek?) == some '\'' then quotes '\''
    else if ← newline then return (['\n'], false)
    else plainRun fun c => isPlain c && c != '\''

/-- The characters of a text. Three quotes are looked for before a single one. -/
def textChars : Reader (List Char) := do
  if ← accept ['"', '"', '"'] then basicLines
  else if ← accept ['"'] then basicText
  else if ← accept ['\'', '\'', '\''] then literalLines
  else
    expect '\''
    literalText

/-- A text. -/
def text : Reader String :=
  String.ofList <$> textChars

/-- Characters of a bare key. -/
def isBare (c : Char) : Bool :=
  c.isAlphanum || c == '-' || c == '_'

/-- The characters of a key without dots. -/
def keyChars : Reader (List Char) := do
  if ← accept ['"'] then basicText
  else if ← accept ['\''] then literalText
  else
    let run ← takeWhile isBare
    if run.isEmpty then failure else return run

/-- A key without dots. -/
def simpleKey : Reader String :=
  String.ofList <$> keyChars

/-- The greatest number of keys in a row, and of arrays and tables inside each other. -/
def depthLimit : Nat := 79

/-- A key with dots: the way to the last key, and that key. -/
def dottedKey : Reader (List String × String) := do
  let keys ← gather do
    blanks
    let key ← simpleKey
    blanks
    return ([key], !(← accept ['.']))
  if depthLimit < keys.length then failure
  match keys.getLast? with
  | some key => return (keys.dropLast, key)
  | none => failure

end BenchLog.Toml.Reader
