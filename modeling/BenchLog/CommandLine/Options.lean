import BenchLog.Duration
import BenchLog.Settings

/-!
# Options of the command line

What a user asks for. Options become a layer of settings that lies over everything else.
-/

namespace BenchLog.CommandLine

/-- The arguments of the program, sorted out. -/
structure Options where
  logs : List String := []
  /-- Durations as they are written. -/
  duration : Option String := none
  warmup : Option String := none
  window : Bool := false
  workers : Option Nat := none
  inputKind : Option InputKind := none
  format : Option Format := none
  output : Option String := none
  follow : Option Int := none
  tweet : Option Int := none
  /-- The settings file. -/
  config : Option String := none
  debug : Bool := false
  deriving DecidableEq

/-- Why options are refused before any file is read. -/
inductive OptionsFault where
  | noWorkers
  /-- Neither logs nor a settings file that could name them. -/
  | noLogs
  deriving DecidableEq, Repr

/-- The fault as a message has it. -/
def OptionsFault.message : OptionsFault → String
  | .noWorkers => "workers must be at least 1"
  | .noLogs => "at least one log file is required"

/-- The two options that are durations. -/
inductive DurationOption where
  | duration
  | warmup
  deriving DecidableEq, Repr

/-- The option as a message names it. -/
def DurationOption.name : DurationOption → String
  | .duration => "duration"
  | .warmup => "warmup"

/-- An option that is no duration. -/
structure DurationFault where
  option : DurationOption
  fault : Duration.Fault
  deriving DecidableEq, Repr

/-- The fault in words, and what lies behind it. -/
def DurationFault.messages (fault : DurationFault) : List String :=
  ("Invalid " ++ fault.option.name) :: fault.fault.messages

namespace Options

/-- Check what can be checked without any file. -/
def check (options : Options) : Except OptionsFault Unit :=
  if options.workers = some 0 then .error .noWorkers
  else if options.logs.isEmpty ∧ options.config.isNone then .error .noLogs
  else .ok ()

/-- Read an option that is a duration. -/
def readDuration (option : DurationOption) (text : String) : Except DurationFault Float :=
  (Duration.read text.toList).mapError (⟨option, ·⟩)

/-- The layer of settings that the options give. -/
def layer (options : Options) : Except DurationFault Settings.Layer := do
  let duration ← options.duration.mapM (readDuration .duration)
  let warmup ← options.warmup.mapM (readDuration .warmup)
  return {
    logs := if options.logs.isEmpty then none else some options.logs
    duration := duration
    warmup := warmup
    window := if options.window then some true else none
    workers := options.workers
    inputKind := options.inputKind
    follow := options.follow
    tweet := options.tweet
    format := options.format
    output := options.output }

/-- The settings below, but for those that the options give. -/
def onto (options : Options) (below : Settings) : Except DurationFault Settings := do
  return (← options.layer).onto below

end Options

end BenchLog.CommandLine
