import BenchLog.Analysis
import BenchLog.CommandLine.Arguments
import BenchLog.LogFile
import BenchLog.Machine
import BenchLog.Report
import BenchLog.Settings.Check
import BenchLog.Settings.Document

/-!
# The program

From arguments to a document: options, settings, logs, analysis, report. Nothing is printed or written
before the whole document is there, and then it is written or printed once, so a run that fails leaves no
document behind.
-/

namespace BenchLog

/-- Why a run yields no document. -/
inductive ProgramError where
  | options (fault : CommandLine.OptionsFault)
  | unreadableSettings (path : String) (fault : SystemFault)
  | badSettings (path : String) (fault : Settings.DocumentFault)
  | duration (fault : CommandLine.DurationFault)
  | settings (fault : Settings.Fault)
  | analysis (failure : Failure)
  | document (fault : Csv.Fault)
  | unwritable (path : String) (fault : SystemFault)
  | unprintable (fault : SystemFault)

namespace ProgramError

/-- The error in words: its message and then the messages of its causes. -/
def messages : ProgramError → List String
  | .options fault => [fault.message]
  | .unreadableSettings path fault => ["Failed to read config file: " ++ path, fault.message]
  | .badSettings path fault => ("Failed to parse config file: " ++ path) :: fault.messages
  | .duration fault => fault.messages
  | .settings fault => ["Configuration validation failed", fault.message]
  | .analysis failure => failure.messages
  | .document fault => [fault.message]
  | .unwritable path fault => ["Failed to write result to " ++ path, fault.message]
  | .unprintable fault => ["Failed to write result to stdout", fault.message]

/-- A text whose later lines are indented. -/
def hang (indent : Nat) (text : String) : String :=
  let lines := (text.toList.splitOnP (· == '\n')).map String.ofList
  ("\n" ++ String.ofList (List.replicate indent ' ')).intercalate lines

/-- Causes on lines of their own, numbered from zero if there are several. -/
def causeLines : List String → List String
  | [cause] => ["    " ++ hang 4 cause]
  | causes => causes.zipIdx.map fun (cause, number) =>
    Text.alignRight 5 (toString number) ++ ": " ++ hang 7 cause

/-- The error as it is shown to the user. -/
def report (messages : List String) : String :=
  match messages with
  | [] => ""
  | [message] => "Error: " ++ message ++ "\n"
  | message :: causes =>
    "Error: " ++ message ++ "\n\nCaused by:\n" ++ "\n".intercalate (causeLines causes) ++ "\n"

end ProgramError

/-- How the program ends: its exit code and what it says about a failure. -/
structure Exit where
  code : UInt32
  stderr : String
  deriving DecidableEq, Repr

namespace Program

variable {m : Type → Type} [Monad m]

section Reading

variable [FileReader m]

/-- Read a file. -/
def readFile (path : String) (error : SystemFault → ProgramError) :
    ExceptT ProgramError m (List UInt8) := do
  match ← (FileReader.read path : m _) with
  | .ok bytes => return bytes
  | .error fault => throw (error fault)

/-- Go on with a result, or stop with its error. -/
def lift {ε α : Type} (error : ε → ProgramError) (result : Except ε α) :
    ExceptT ProgramError m α :=
  ExceptT.mk (pure (result.mapError error))

/-- The settings of a file. -/
def settingsOfFile (path : String) : ExceptT ProgramError m Settings := do
  let bytes ← readFile path (.unreadableSettings path)
  match Text.Utf8.decode? bytes with
  | none => throw (.unreadableSettings path .notText)
  | some text => lift (.badSettings path) (Settings.ofDocument text)

/-- The settings of a run: those of the settings file, if there is one, and the options over them. -/
def settings (options : CommandLine.Options) : ExceptT ProgramError m Settings := do
  let below ← match options.config with
    | some path => settingsOfFile path
    | none => pure {}
  lift .duration (options.onto below)

/-- Open a log file. -/
def openLog (path : String) : ExceptT ProgramError m LogFile := do
  let bytes ← readFile path fun fault => .analysis (.unreadable path fault)
  lift .analysis (LogFile.ofBytes path bytes)

/-- Analyze lines. Only the text report shows a histogram. -/
def analyze (lines : List LogLine) (settings : Settings) : Except Failure Report :=
  match settings.inputKind with
  | .transactions => do
    let analysis ← Analysis.ofLines lines settings
    let histogram :=
      if settings.format = .text then some ⟨analysis.tally.groups.all⟩ else none
    return .transactions analysis.summary analysis.window histogram
  | .microbench => return .microbench (← MicrobenchSummary.ofLines lines)

/-- Read all logs and analyze them. -/
def report (settings : Settings) : ExceptT ProgramError m Report := do
  let files ← settings.logs.mapM openLog
  lift .analysis (analyze (collectLines files) settings)

end Reading

variable [FileAccess m] [Console m]

/-- Write a document to the file for it, or print it if there is none. -/
def deliver (settings : Settings) (document : String) : ExceptT ProgramError m Unit := do
  match settings.output with
  | some path =>
    match ← (FileAccess.write path document : m _) with
    | .ok () => return
    | .error fault => throw (.unwritable path fault)
  | none =>
    match ← (Console.print document : m _) with
    | .ok () => return
    | .error fault => throw (.unprintable fault)

/-- Run with these options. -/
def run (options : CommandLine.Options) : ExceptT ProgramError m Unit := do
  lift .options options.check
  let settings ← settings options
  lift .settings settings.check
  let report ← report settings
  deliver settings (← lift .document (report.document settings.format))

/-- The name and the version of the program. -/
def version : String := "txnstat 0.1.0"

/-- How the program is called. -/
def usage : String :=
  "Usage: txnstat [OPTIONS] [LOG]...\n\n" ++
  "  -d, --duration <DURATION>          length of the measured time (60, 90s, 2.5m)\n" ++
  "      --warmup <WARMUP>              time before it that does not count (10s)\n" ++
  "      --window                       count only transactions that end inside the window\n" ++
  "  -w, --workers <WORKERS>            number of parts (8; also TXNSTAT_WORKERS)\n" ++
  "      --input-kind <INPUT_KIND>      transactions or microbench\n" ++
  "  -f, --format <FORMAT>              json, text or csv\n" ++
  "  -o, --output <OUTPUT>              write the document to this file\n" ++
  "      --follow-txn-type <CODE>       kind of follow transactions (2)\n" ++
  "      --tweet-txn-type <CODE>        kind of tweet transactions (3)\n" ++
  "  -c, --config <CONFIG>              settings file\n" ++
  "      --debug                        show what is done\n" ++
  "  -h, --help                         show this text\n" ++
  "  -V, --version                      show the version\n"

/-- Answer a question about the program. That the answer cannot be printed is no failure. -/
def answer (text : String) : m Exit := do
  let _ ← (Console.print text : m _)
  return ⟨0, ""⟩

/-- The end for arguments that are no options. Asking for help is no mistake. -/
def refuse : CommandLine.Refusal → m Exit
  | .help => answer usage
  | .version => answer (version ++ "\n")
  | _ => return ⟨2, usage⟩

/-- The whole program, from its arguments to its end. -/
def execute (arguments : List String) (workersVariable : Option String) : m Exit := do
  match CommandLine.parse arguments workersVariable with
  | .error refusal => refuse refusal
  | .ok options =>
    match ← (run options).run with
    | .ok () => return ⟨0, ""⟩
    | .error error => return ⟨1, ProgramError.report error.messages⟩

end Program

end BenchLog
