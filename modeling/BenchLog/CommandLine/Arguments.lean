import BenchLog.CommandLine.Options
import BenchLog.Decimal.Integer

/-!
# Arguments of the command line

Arguments are read from left to right. An option may carry its value behind an equals sign, and a short
one also without it; otherwise the next argument is the value. Values are looked at late: when another
option or a log follows, or at the end. So an unknown option is reported before the bad value of the
option in front of it. After two hyphens alone, every argument is a log.
-/

namespace BenchLog.CommandLine

/-- An option with a value. -/
inductive Valued where
  | duration
  | warmup
  | workers
  | inputKind
  | format
  | output
  | follow
  | tweet
  | config
  deriving DecidableEq, Repr

/-- An option without a value. -/
inductive Switch where
  | window
  | debug
  | help
  | version
  deriving DecidableEq, Repr

/-- An option of either kind. -/
inductive Known where
  | valued (option : Valued)
  | switch (option : Switch)
  deriving DecidableEq, Repr

namespace Known

/-- The options by their long names. -/
def longNames : List (String × Known) :=
  [("duration", .valued .duration), ("warmup", .valued .warmup), ("window", .switch .window),
    ("workers", .valued .workers), ("input-kind", .valued .inputKind), ("format", .valued .format),
    ("output", .valued .output), ("follow-txn-type", .valued .follow),
    ("tweet-txn-type", .valued .tweet), ("config", .valued .config), ("debug", .switch .debug),
    ("help", .switch .help), ("version", .switch .version)]

/-- The options by their short names. -/
def shortNames : List (Char × Known) :=
  [('d', .valued .duration), ('w', .valued .workers), ('f', .valued .format),
    ('o', .valued .output), ('c', .valued .config), ('h', .switch .help), ('V', .switch .version)]

end Known

/-- Whether the value may start with a hyphen. Kinds of work may be negative. -/
def Valued.takesHyphens : Valued → Bool
  | .follow | .tweet => true
  | _ => false

/-- Why arguments give no options. -/
inductive Refusal where
  /-- No option has this name. -/
  | unknown (argument : String)
  /-- An option has no value where it needs one. -/
  | missingValue (option : Valued)
  /-- The value of an option is none of those that it takes. -/
  | badValue (option : Valued) (value : String)
  /-- The path of a log is empty. -/
  | emptyLog
  /-- The value of an option is no number of its range. -/
  | badNumber (option : Valued) (value : String)
  /-- An option is given twice. -/
  | repeated (option : Known)
  /-- An option has a value but takes none. -/
  | extraValue (option : Switch)
  /-- The user asks for help. -/
  | help
  /-- The user asks for the version. -/
  | version
  deriving DecidableEq, Repr

/-- What was read but not yet looked at. -/
inductive Pending where
  | nothing
  /-- Logs in a row. -/
  | logs (paths : List String)
  /-- An option and its value, once that is there. -/
  | valued (option : Valued) (value? : Option String)
  deriving DecidableEq, Repr

/-- How far the arguments are read. -/
structure Progress where
  options : Options := {}
  pending : Pending := .nothing
  /-- Whether only logs are left. -/
  logsOnly : Bool := false

/-- Whether an option has a value. -/
def Options.has (options : Options) : Valued → Bool
  | .duration => options.duration.isSome
  | .warmup => options.warmup.isSome
  | .workers => options.workers.isSome
  | .inputKind => options.inputKind.isSome
  | .format => options.format.isSome
  | .output => options.output.isSome
  | .follow => options.follow.isSome
  | .tweet => options.tweet.isSome
  | .config => options.config.isSome

/-- A path that is not empty. -/
def readPath (option : Valued) (value : String) : Except Refusal String :=
  if value.isEmpty then .error (.badValue option value) else .ok value

/-- A number of workers. -/
def readWorkers (value : String) : Except Refusal Nat :=
  (Decimal.readUnsigned Decimal.wordLimit value.toList).mapError fun _ => .badNumber .workers value

/-- A kind of work. -/
def readKind (option : Valued) (value : String) : Except Refusal Int :=
  (Decimal.readSigned Decimal.signedLimit value.toList).mapError fun _ => .badNumber option value

/-- One of the choices that have a name. -/
def readChoice {α : Type} (option : Valued) (ofName? : String → Option α) (value : String) :
    Except Refusal α :=
  match ofName? value with
  | some choice => .ok choice
  | none => .error (.badValue option value)

/-- Give an option its value. -/
def Options.put (options : Options) (value : String) : Valued → Except Refusal Options
  | .duration => return { options with duration := some value }
  | .warmup => return { options with warmup := some value }
  | .workers => return { options with workers := some (← readWorkers value) }
  | .inputKind =>
    return { options with inputKind := some (← readChoice .inputKind InputKind.ofName? value) }
  | .format => return { options with format := some (← readChoice .format Format.ofName? value) }
  | .output => return { options with output := some (← readPath .output value) }
  | .follow => return { options with follow := some (← readKind .follow value) }
  | .tweet => return { options with tweet := some (← readKind .tweet value) }
  | .config => return { options with config := some (← readPath .config value) }

/-- Give an option its value, for the first time. -/
def Options.store (options : Options) (option : Valued) (value? : Option String) :
    Except Refusal Options :=
  match value? with
  | none => .error (.missingValue option)
  | some value =>
    if options.has option then .error (.repeated (.valued option)) else options.put value option

namespace Progress

/-- Look at what is pending. -/
def resolve (progress : Progress) : Except Refusal Progress := do
  let options ←
    match progress.pending with
    | .nothing => pure progress.options
    | .logs paths =>
      if paths.any String.isEmpty then throw .emptyLog
      pure { progress.options with logs := progress.options.logs ++ paths }
    | .valued option value? => progress.options.store option value?
  return { progress with options := options, pending := .nothing }

/-- Read an option with the value that stands in the same argument, if any. -/
def readValued (progress : Progress) (option : Valued) (value? : Option String) :
    Except Refusal Progress := do
  let progress ← progress.resolve
  match value? with
  | some value => return { progress with options := ← progress.options.store option (some value) }
  | none => return { progress with pending := .valued option none }

/-- Read an option without value. -/
def readSwitch (progress : Progress) (option : Switch) : Except Refusal Progress := do
  let progress ← progress.resolve
  let options := progress.options
  match option with
  | .window =>
    if options.window then throw (.repeated (.switch .window))
    return { progress with options := { options with window := true } }
  | .debug =>
    if options.debug then throw (.repeated (.switch .debug))
    return { progress with options := { options with debug := true } }
  | .help => throw .help
  | .version => throw .version

/-- Read an argument that starts with two hyphens, without them. -/
def readLong (progress : Progress) (text : List Char) : Except Refusal Progress :=
  let name := String.ofList (text.takeWhile (· != '='))
  let value? :=
    match text.dropWhile (· != '=') with
    | [] => none
    | _ :: value => some (String.ofList value)
  match Known.longNames.lookup name with
  | none => .error (.unknown name)
  | some (.valued option) => progress.readValued option value?
  | some (.switch option) =>
    if value?.isSome then .error (.extraValue option) else progress.readSwitch option

/-- Read an argument that starts with one hyphen, without it: the first character names the option. -/
def readShort (progress : Progress) (name : Char) (rest : List Char) : Except Refusal Progress :=
  match Known.shortNames.lookup name with
  | none => .error (.unknown (String.singleton name))
  | some (.switch option) => progress.readSwitch option
  | some (.valued option) =>
    match rest with
    | [] => progress.readValued option none
    | '=' :: value => progress.readValued option (some (String.ofList value))
    | value => progress.readValued option (some (String.ofList value))

/-- Read an argument that is a log. -/
def readLog (progress : Progress) (path : String) : Except Refusal Progress := do
  match progress.pending with
  | .logs paths => return { progress with pending := .logs (paths ++ [path]) }
  | _ => return { (← progress.resolve) with pending := .logs [path] }

/-- Read an argument that names no option: the value that an option waits for, or a log. -/
def readPlain (progress : Progress) (argument : String) : Except Refusal Progress :=
  match progress.pending with
  | .valued option none => return { progress with pending := .valued option (some argument) }
  | _ => progress.readLog argument

/-- Whether an option waits for a value that may start with a hyphen. -/
def takesAnything (progress : Progress) : Bool :=
  match progress.pending with
  | .valued option none => option.takesHyphens
  | _ => false

/-- Read an argument. -/
def step (progress : Progress) (argument : String) : Except Refusal Progress :=
  if progress.logsOnly then progress.readLog argument
  else if progress.takesAnything then progress.readPlain argument
  else
    match argument.toList with
    | ['-', '-'] => .ok { progress with logsOnly := true }
    | '-' :: '-' :: text => progress.readLong text
    | '-' :: name :: rest => progress.readShort name rest
    | _ => progress.readPlain argument

end Progress

/-- Read the arguments. The number of workers may also come from the environment. -/
def parse (arguments : List String) (workersVariable : Option String) : Except Refusal Options := do
  let progress ← arguments.foldlM Progress.step {}
  let options := (← progress.resolve).options
  match options.workers, workersVariable with
  | none, some value => return { options with workers := some (← readWorkers value) }
  | _, _ => return options

end BenchLog.CommandLine
