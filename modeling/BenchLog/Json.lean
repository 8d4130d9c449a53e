import BenchLog.Decimal.Style

/-!
# JSON values

Members of an object keep their order. One writer serves both layouts: everything on one line, or each
item on a line of its own, indented by its depth.
-/

namespace BenchLog

/-- A number: an integer, or a floating-point number that JSON can write. -/
inductive Json.Number where
  | integer (value : Int)
  | real (value : Float) (finite : value.isFinite = true)
  deriving DecidableEq

/-- A JSON value. -/
inductive Json where
  | null
  | bool (value : Bool)
  | number (value : Json.Number)
  | text (value : String)
  | array (items : List Json)
  | object (members : List (String × Json))

namespace Json

/-- A natural number as a value. -/
def ofNat (n : Nat) : Json := .number (.integer n)

/-- A floating-point number as a value; infinity and what is not a number have none. -/
def ofFloat (x : Float) : Json :=
  if finite : x.isFinite = true then .number (.real x finite) else .null

/-- A text as a value, if there is one. -/
def ofText? (text? : Option String) : Json :=
  (text?.map Json.text).getD .null

/-- Documents write a number with its point in place from five zeros behind the point to sixteen digits
    before it, and an integer ends in a point and a zero. Of two shortest decimals that are equally near,
    the even one is written. -/
def realStyle : Decimal.Style where
  positional := fun point => -5 < point && point ≤ 16
  wholeFraction := true
  tie := .toEven

/-- A number as it is written. -/
def Number.write : Number → String
  | .integer value => toString value
  | .real value _ => realStyle.write value

/-- How a character stands inside a string: quotes, backslashes and controls are escaped. -/
def escape (c : Char) : List Char :=
  match c with
  | '"' => ['\\', '"']
  | '\\' => ['\\', '\\']
  | '\n' => ['\\', 'n']
  | '\r' => ['\\', 'r']
  | '\t' => ['\\', 't']
  | '\x08' => ['\\', 'b']
  | '\x0c' => ['\\', 'f']
  | c =>
    if c.toNat < 0x20 then ['\\', 'u', '0', '0'] ++ [Nat.digitChar (c.toNat / 16)] ++
      [Nat.digitChar (c.toNat % 16)]
    else [c]

/-- A string between its quotes. -/
def writeText (text : String) : String :=
  String.ofList ('"' :: text.toList.flatMap escape ++ ['"'])

/-- Where lines break, and what follows a key. -/
structure Layout where
  /-- What stands before an item at a depth, and before the bracket that closes items below it. -/
  lineBreak : Nat → String
  colon : String

/-- Everything on one line, without spaces. -/
def compact : Layout where
  lineBreak := fun _ => ""
  colon := ":"

/-- Each item on a line of its own, indented by four spaces for each depth. -/
def indented : Layout where
  lineBreak := fun depth => "\n" ++ String.ofList (List.replicate (4 * depth) ' ')
  colon := ": "

mutual

/-- A value at a depth. -/
def write (layout : Layout) (depth : Nat) : Json → String
  | .null => "null"
  | .bool value => if value then "true" else "false"
  | .number value => value.write
  | .text value => writeText value
  | .array [] => "[]"
  | .array (item :: items) =>
    "[" ++ layout.lineBreak (depth + 1) ++ write layout (depth + 1) item ++
      writeItems layout (depth + 1) items ++ layout.lineBreak depth ++ "]"
  | .object [] => "\x7b\x7d"
  | .object ((key, value) :: members) =>
    "\x7b" ++ layout.lineBreak (depth + 1) ++ writeText key ++ layout.colon ++
      write layout (depth + 1) value ++ writeMembers layout (depth + 1) members ++
      layout.lineBreak depth ++ "\x7d"

/-- Items that follow another one. -/
def writeItems (layout : Layout) (depth : Nat) : List Json → String
  | [] => ""
  | item :: items =>
    "," ++ layout.lineBreak depth ++ write layout depth item ++ writeItems layout depth items

/-- Members that follow another one. -/
def writeMembers (layout : Layout) (depth : Nat) : List (String × Json) → String
  | [] => ""
  | (key, value) :: members =>
    "," ++ layout.lineBreak depth ++ writeText key ++ layout.colon ++ write layout depth value ++
      writeMembers layout depth members

end

/-- A value on one line. -/
def line (value : Json) : String :=
  value.write compact 0

/-- A value as a document. -/
def document (value : Json) : String :=
  value.write indented 0 ++ "\n"

end Json

end BenchLog
