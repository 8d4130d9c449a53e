import BenchLog.Grouping

/-!
# Settings

What to analyze and how. Every setting has a default; a layer holds the settings that one source gives
and is put over what lies below it.
-/

namespace BenchLog

/-- What the lines of a log are. -/
inductive InputKind where
  /-- A line for each transaction. -/
  | transactions
  /-- A final line for each client. -/
  | microbench
  deriving DecidableEq, Repr

namespace InputKind

/-- The kind as files and options name it. -/
def name : InputKind → String
  | .transactions => "transactions"
  | .microbench => "microbench"

/-- The kind with the given name. -/
def ofName? (name : String) : Option InputKind :=
  [transactions, microbench].find? (·.name == name)

end InputKind

/-- How a report is written. -/
inductive Format where
  | json
  | text
  | csv
  deriving DecidableEq, Repr

namespace Format

/-- The format as files and options name it. -/
def name : Format → String
  | .json => "json"
  | .text => "text"
  | .csv => "csv"

/-- The format with the given name. -/
def ofName? (name : String) : Option Format :=
  [json, text, csv].find? (·.name == name)

end Format

/-- The settings of an analysis. -/
structure Settings where
  /-- The log files, in the order in which they are read. -/
  logs : List String := []
  /-- The length of the measured time, in seconds. -/
  duration : Float := 0
  /-- The time before it that does not count, in seconds. -/
  warmup : Float := 10
  /-- Whether only transactions inside the measured time count. -/
  window : Bool := false
  workers : Nat := 8
  inputKind : InputKind := .transactions
  tracked : Tracked := {}
  format : Format := .json
  /-- The file for the report; standard output if there is none. -/
  output : Option String := none
  deriving DecidableEq

namespace Settings

/-- The settings that one source gives. -/
structure Layer where
  logs : Option (List String) := none
  duration : Option Float := none
  warmup : Option Float := none
  window : Option Bool := none
  workers : Option Nat := none
  inputKind : Option InputKind := none
  follow : Option Int := none
  tweet : Option Int := none
  format : Option Format := none
  output : Option String := none
  deriving DecidableEq

/-- The settings below, but for those that the layer gives. -/
def Layer.onto (layer : Layer) (below : Settings) : Settings where
  logs := layer.logs.getD below.logs
  duration := layer.duration.getD below.duration
  warmup := layer.warmup.getD below.warmup
  window := layer.window.getD below.window
  workers := layer.workers.getD below.workers
  inputKind := layer.inputKind.getD below.inputKind
  tracked := {
    follow := layer.follow.getD below.tracked.follow
    tweet := layer.tweet.getD below.tracked.tweet }
  format := layer.format.getD below.format
  output := layer.output.or below.output

/-- A layer that was put on once changes nothing when it is put on again. -/
theorem Layer.onto_onto (layer : Layer) (below : Settings) :
    layer.onto (layer.onto below) = layer.onto below := by
  have again {α : Type} (given? : Option α) (below : α) :
      given?.getD (given?.getD below) = given?.getD below := by
    cases given? <;> rfl
  have output : layer.output.or (layer.output.or below.output) = layer.output.or below.output := by
    cases layer.output <;> rfl
  simp only [onto, again, output]

end Settings

end BenchLog
