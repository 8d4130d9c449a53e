import BenchLog.Settings
import BenchLog.Toml.Document

/-!
# Settings files

A settings file is a TOML document. It gives a layer: keys that it does not have are left to the
defaults, and keys that are no settings are passed over.
-/

namespace BenchLog.Settings

/-- Why a text is no settings file. -/
inductive DocumentFault where
  /-- The text is no TOML document. -/
  | syntaxError
  /-- A setting has a value of another kind. -/
  | wrongKind
  deriving DecidableEq, Repr

/-- The fault in words, and what lies behind it. -/
def DocumentFault.messages (fault : DocumentFault) : List String :=
  ["Failed to parse TOML configuration",
    match fault with
    | .syntaxError => "not a TOML document"
    | .wrongKind => "a setting has a value of the wrong kind"]

/-- The members of a table by their keys. -/
abbrev Members := List (String × Toml.Value)

/-- The setting under a key, if there is one; it has to be readable. -/
def setting? {α : Type} (members : Members) (key : String) (read : Toml.Value → Option α) :
    Option (Option α) :=
  match members.lookup key with
  | none => some none
  | some value => (read value).map some

/-- A choice is made by its name, or by a table in which nothing but an empty value has that name. -/
def choice? {α : Type} (ofName? : String → Option α) : Toml.Value → Option α
  | .text name => ofName? name
  | .table [(name, .table [])] => ofName? name
  | .table [(name, .array [])] => ofName? name
  | _ => none

/-- A number of workers. -/
def workers? (value : Toml.Value) : Option Nat :=
  match value.integer? with
  | some (.ofNat n) => some n
  | _ => none

/-- The paths of an array. -/
def paths? (value : Toml.Value) : Option (List String) :=
  value.items?.bind fun items => items.mapM Toml.Value.text?

/-- A group of settings stands in a table, or without keys in an array, in order; a date in its place
    gives none of them. -/
inductive Group where
  | named (members : Members)
  | listed (items : List Toml.Value)
  | blank

/-- The group that a value is. -/
def group? : Toml.Value → Option Group
  | .table members => some (.named members)
  | .array items => some (.listed items)
  | .moment _ => some .blank
  | _ => none

/-- The tracked kinds that a group gives. Either may be missing. -/
def tracked? : Group → Option (Option Int × Option Int)
  | .named members => do
    return (← setting? members "follow" Toml.Value.integer?,
      ← setting? members "tweet" Toml.Value.integer?)
  | .listed [] | .blank => some (none, none)
  | .listed [follow] => do return (some (← follow.integer?), none)
  | .listed (follow :: tweet :: _) => do return (some (← follow.integer?), some (← tweet.integer?))

/-- The format and the path of the output. In an array neither may be missing. -/
def output? : Group → Option (Option Format × Option String)
  | .named members => do
    return (← setting? members "format" (choice? Format.ofName?),
      ← setting? members "path" Toml.Value.text?)
  | .listed (format :: path :: _) => do
    return (some (← choice? Format.ofName? format), some (← path.text?))
  | .listed _ => none
  | .blank => some (none, none)

/-- The layer that the members of a document give. -/
def Layer.ofMembers? (members : Members) : Option Layer := do
  let tracked ← setting? members "tracked_types" fun value => (group? value).bind tracked?
  let output ← setting? members "output" fun value => (group? value).bind output?
  return {
    logs := ← setting? members "logs" paths?
    duration := ← setting? members "duration_sec" Toml.Value.float?
    warmup := ← setting? members "warmup_sec" Toml.Value.float?
    window := ← setting? members "window" Toml.Value.bool?
    workers := ← setting? members "workers" workers?
    inputKind := ← setting? members "input_kind" (choice? InputKind.ofName?)
    follow := tracked.bind Prod.fst
    tweet := tracked.bind Prod.snd
    format := output.bind Prod.fst
    output := output.bind Prod.snd }

/-- The layer of a settings file. -/
def Layer.ofDocument (text : List Char) : Except DocumentFault Layer :=
  match Toml.read? text with
  | none => .error .syntaxError
  | some members =>
    match Layer.ofMembers? members with
    | none => .error .wrongKind
    | some layer => .ok layer

/-- The settings of a file, over the defaults. -/
def ofDocument (text : List Char) : Except DocumentFault Settings := do
  return (← Layer.ofDocument text).onto {}

end BenchLog.Settings
