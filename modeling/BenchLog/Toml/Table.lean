import BenchLog.Toml.Value

/-!
# Tables under construction

A document gives its tables bit by bit: a header opens a table, and the dotted key of a pair opens the
tables on its way. How a table came about decides who may still add to it.
-/

namespace BenchLog.Toml

/-- How a table came about. -/
inductive Origin where
  /-- By its own header, or as the top of the document. -/
  | header
  /-- On the way to the table of a header. -/
  | passed
  /-- On the way to the value of a dotted key. -/
  | dotted
  deriving DecidableEq, Repr

mutual

/-- What stands under a key. -/
inductive Node where
  /-- A value that is complete. -/
  | value (value : Value)
  | table (table : Table)
  /-- An array of tables, with the one that is still open at its end. -/
  | tables (closed : List Table) (last : Table)

/-- A table that may still grow. -/
inductive Table where
  | mk (origin : Origin) (members : List (String × Node))

end

namespace Table

/-- How the table came about. -/
def origin : Table → Origin
  | .mk origin _ => origin

/-- The keys of the table, with what stands under them. -/
def members : Table → List (String × Node)
  | .mk _ members => members

/-- A table without keys. -/
def empty (origin : Origin) : Table := .mk origin []

/-- What stands under a key. -/
def get? (table : Table) (key : String) : Option Node :=
  table.members.lookup key

/-- Put something under a key that the table has or has not yet. -/
def set (table : Table) (key : String) (node : Node) : Table :=
  if (table.get? key).isSome then
    .mk table.origin (table.members.map fun old => if old.1 = key then (key, node) else old)
  else
    .mk table.origin (table.members ++ [(key, node)])

/-- Change the table at the end of a path. Missing tables are made on the way. The way goes through
    tables and into the last table of an array of tables; a dotted key does not enter a table that has a
    header of its own. -/
def modifyAt (dotted : Bool) (change : Table → Option Table) : List String → Table → Option Table
  | [], table => change table
  | key :: path, table => do
    match table.get? key with
    | none =>
      let made ← modifyAt dotted change path (empty (if dotted then .dotted else .passed))
      return table.set key (.table made)
    | some (.table inner) =>
      if dotted && inner.origin == .header then
        none
      else
        return table.set key (.table (← modifyAt dotted change path inner))
    | some (.tables closed last) =>
      return table.set key (.tables closed (← modifyAt dotted change path last))
    | some (.value _) => none

/-- Give a new key a value. -/
def add (key : String) (value : Value) (table : Table) : Option Table :=
  if (table.get? key).isSome then none else some (table.set key (.value value))

/-- A key with its value. The key is dotted if there is a path to it. -/
structure Pair where
  path : List String
  key : String
  value : Value

/-- Add a pair to a table. A dotted key adds to tables that dotted keys made, and to no others. -/
def addPair (table : Table) (pair : Pair) : Option Table :=
  table.modifyAt true
    (fun inner =>
      if (inner.origin == .dotted) = pair.path.isEmpty then none
      else inner.add pair.key pair.value)
    pair.path

/-- Add pairs in their order. -/
def addPairs (table : Table) (pairs : List Pair) : Option Table :=
  pairs.foldlM addPair table

/-- A header with the pairs below it. -/
structure Section where
  path : List String
  key : String
  /-- Whether the header adds a table to an array of tables. -/
  inArray : Bool
  pairs : List Pair

/-- Open the table of a header below the table before it, and add its pairs. A table may have been
    passed on the way to another header, but not be opened twice. -/
def openSection (part : Section) (above : Table) : Option Table := do
  if part.inArray then
    let made ← addPairs (empty .header) part.pairs
    match above.get? part.key with
    | none => return above.set part.key (.tables [] made)
    | some (.tables closed last) => return above.set part.key (.tables (closed ++ [last]) made)
    | _ => none
  else
    let members ←
      match above.get? part.key with
      | none => some []
      | some (.table (.mk .passed members)) => some members
      | _ => none
    return above.set part.key (.table (← addPairs (.mk .header members) part.pairs))

/-- Add a section to a document. -/
def addSection (document : Table) (part : Section) : Option Table :=
  document.modifyAt false (openSection part) part.path

mutual

/-- A finished table as a value. -/
def toValue : Table → Value
  | .mk _ members => .table (membersToValues members)

/-- What stands under a key, as a value. -/
def nodeToValue : Node → Value
  | .value value => value
  | .table table => table.toValue
  | .tables closed last => .array (tablesToValues closed ++ [last.toValue])

/-- Finished tables as values. -/
def tablesToValues : List Table → List Value
  | [] => []
  | table :: rest => table.toValue :: tablesToValues rest

/-- The members of a finished table with their values. -/
def membersToValues : List (String × Node) → List (String × Value)
  | [] => []
  | (key, node) :: rest => (key, nodeToValue node) :: membersToValues rest

end

end Table

end BenchLog.Toml
