import BenchLog.Toml.Number
import BenchLog.Toml.Table

/-!
# TOML documents

A document is a list of pairs, followed by sections that a header opens. Arrays may go over several
lines and end in a comma, tables inside a line may not.
-/

namespace BenchLog.Toml

namespace Reader

/-- A key, its equals sign and its value. -/
def pair (value : Reader Value) : Reader Table.Pair := do
  let (path, key) ← dottedKey
  expect '='
  blanks
  return { path, key, value := ← value }

/-- An array, after its opening bracket. -/
def array (value : Reader Value) : Reader Value := do
  let items ← gather do
    blankLines
    if ← accept [']'] then return ([], true)
    else
      let item ← value
      blankLines
      if ← accept [','] then return ([item], false)
      else
        expect ']'
        return ([item], true)
  return .array items

/-- A table inside a line, after its opening brace. -/
def inlineTable (value : Reader Value) : Reader Value := do
  blanks
  if ← accept ['\x7d'] then return .table []
  let pairs ← gather do
    let pair ← pair value
    blanks
    if ← accept [','] then return ([pair], false)
    else
      expect '\x7d'
      return ([pair], true)
  match (Table.empty .header).addPairs pairs with
  | some table => return table.toValue
  | none => failure

/-- A value in which arrays and tables lie at most so deep inside each other. -/
def value : Nat → Reader Value
  | 0 => scalar
  | depth + 1 => do
    if ← accept ['['] then array (value depth)
    else if ← accept ['\x7b'] then inlineTable (value depth)
    else scalar
where
  /-- A value that holds no others. -/
  scalar : Reader Value := do
    match ← peek? with
    | some '"' | some '\'' => return .text (← text)
    | _ =>
      if ← accept "true".toList then return .bool true
      else if ← accept "false".toList then return .bool false
      else number

/-- A line of a document: a pair, or nothing but a comment. The last bit stands before a header or at
    the end. -/
def pairLine : Reader (List Table.Pair × Bool) := do
  blanks
  match ← peek? with
  | none | some '[' => return ([], true)
  | some '\n' | some '\r' | some '#' =>
    lineEnd
    return ([], false)
  | _ =>
    let pair ← pair (value depthLimit)
    lineEnd
    return ([pair], false)

/-- The pairs up to the next header or the end. -/
def pairs : Reader (List Table.Pair) := gather pairLine

/-- A header and the pairs below it. -/
def headed : Reader Table.Section := do
  expect '['
  let inArray ← accept ['[']
  let (path, key) ← dottedKey
  expect ']'
  if inArray then expect ']'
  lineEnd
  return { path, key, inArray, pairs := ← pairs }

/-- The sections up to the end. -/
def headedParts : Reader (List Table.Section) := gather do
  if (← peek?).isNone then return ([], true) else return ([← headed], false)

/-- A whole document, after the mark that some editors put at its start. -/
def document : Reader Table := do
  let _ ← accept ['\uFEFF']
  let top ← pairs
  let parts ← headedParts
  match (Table.empty .header).addPairs top with
  | some table => StateT.lift (parts.foldlM Table.addSection table)
  | none => failure

end Reader

/-- The members of the table that a document is, if the text is a document. -/
def read? (text : List Char) : Option (List (String × Value)) := do
  let (table, _) ← Reader.document.run text
  return Table.membersToValues table.members

end BenchLog.Toml
