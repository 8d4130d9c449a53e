import BenchLog.Json

/-!
# CSV documents

A flat record becomes two lines: the names of its fields and their values. A text is put between quotes
if it holds a comma, a quote or a line feed, and then a quote inside it is written twice.
-/

namespace BenchLog.Csv

/-- Why a value has no CSV document. -/
inductive Fault where
  /-- The value is no record. -/
  | notARecord (value : Json)
  /-- A field holds a value that is itself an array or a record. -/
  | nested (value : Json)

/-- The fault as a message has it. -/
def Fault.message : Fault → String
  | .notARecord value => "CSV output needs a flat record, got " ++ value.line
  | .nested value => "CSV output cannot hold nested value " ++ value.line

/-- Whether a text cannot stand without quotes. -/
def needsQuotes (text : List Char) : Bool :=
  text.any fun c => c == ',' || c == '"' || c == '\n'

/-- The text with every quote written twice. -/
def doubleQuotes (text : List Char) : List Char :=
  text.flatMap fun c => if c = '"' then ['"', '"'] else [c]

/-- A text as a cell. -/
def escape (text : List Char) : List Char :=
  if needsQuotes text then '"' :: doubleQuotes text ++ ['"'] else text

/-- The cell of a value. -/
def cell : Json → Except Fault String
  | .null => .ok ""
  | .bool value => .ok (if value then "true" else "false")
  | .number value => .ok value.write
  | .text value => .ok (String.ofList (escape value.toList))
  | value => .error (.nested value)

/-- The document of a value. -/
def document : Json → Except Fault String
  | .object members => do
    let cells ← members.mapM fun member => cell member.2
    return ",".intercalate (members.map Prod.fst) ++ "\n" ++ ",".intercalate cells ++ "\n"
  | value => throw (.notARecord value)

end BenchLog.Csv
