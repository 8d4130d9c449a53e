import BenchLog.Decimal.Literal
import BenchLog.Decimal.Style
import BenchLog.LogLine
import BenchLog.SystemFault
import BenchLog.Text.Quoted
import BenchLog.Text.Utf8

/-!
# Why an analysis fails

Each failure names its cause. `Failure.messages` gives the words, the outermost message first.
-/

namespace BenchLog

/-- Why a field is not a number. -/
inductive LiteralFault where
  | integer (fault : Decimal.IntegerFault)
  | float (fault : Decimal.FloatFault)
  deriving DecidableEq, Repr

/-- The fault as a message has it. -/
def LiteralFault.message : LiteralFault → String
  | .integer fault => fault.message
  | .float fault => fault.message

/-- Why a line is malformed. -/
inductive Reason where
  /-- A transaction line has neither five nor seven fields. -/
  | fieldCount (found : Nat)
  /-- A field of the given name is not a number of its kind. -/
  | badField (name : String) (raw : List Char) (fault : LiteralFault)
  /-- No outcome has this code. -/
  | unknownStatus (code : Nat)
  /-- A summary line is too short. -/
  | tokenCount (found : Nat)
  /-- A summary line has another word where a label should stand. -/
  | label (expected : String) (position : Nat) (found : List Char)
  /-- The bytes of the line are not text. -/
  | notText (fault : Text.Utf8.Fault)
  deriving DecidableEq, Repr

/-- The reason as a message has it. -/
def Reason.message : Reason → String
  | .fieldCount found => "expected 5 or 7 fields, found " ++ toString found
  | .badField name raw fault =>
    "invalid " ++ name ++ " " ++ Text.quote (String.ofList raw) ++ ": " ++ fault.message
  | .unknownStatus code => "unknown status code " ++ toString code
  | .tokenCount found =>
    "expected at least 22 tokens in summary line, found " ++ toString found
  | .label expected position found =>
    "expected " ++ Text.quote expected ++ " at token " ++ toString position ++ ", found " ++
      Text.quote (String.ofList found)
  | .notText fault => fault.message

/-- The sums that are kept in 64 bits. -/
inductive Counter where
  | extraAll
  | extraCommitted
  | extraAborted
  | throughput
  deriving DecidableEq, Repr

/-- The counter as messages and documents name it. -/
def Counter.name : Counter → String
  | .extraAll => "extra_all"
  | .extraCommitted => "extra_success"
  | .extraAborted => "extra_failure"
  | .throughput => "throughput_all"

/-- What was being added when a sum grew too large. -/
inductive Origin where
  /-- The value of a line. -/
  | line (path : String) (number : Nat)
  /-- The sum of a partition. -/
  | merge
  deriving DecidableEq, Repr

/-- The origin as a message has it. -/
def Origin.message : Origin → String
  | .line path number => "line " ++ toString number ++ " in " ++ path
  | .merge => "partition merge"

/-- Why an analysis yields no summary. -/
inductive Failure where
  /-- A line that is no comment cannot be read. -/
  | malformed (line : LogLine) (reason : Reason)
  /-- There are no lines. -/
  | noInput
  /-- No transaction is left to be summarized. -/
  | noTransactions
  /-- A sum does not fit 64 bits. -/
  | overflow (counter : Counter) (origin : Origin)
  /-- The duration cannot divide a count. -/
  | badDuration (seconds : Float)
  /-- A log file cannot be read. -/
  | unreadable (path : String) (fault : SystemFault)
  deriving DecidableEq

/-- The failure in words: its message and then the messages of its causes. -/
def Failure.messages : Failure → List String
  | .malformed line reason =>
    ["malformed line " ++ toString line.number ++ " in " ++ line.path ++ ": " ++ reason.message ++
      ": " ++ Text.quote line.text]
  | .noInput => ["zero transactions logged"]
  | .noTransactions => ["zero completed transactions in grouping `all`"]
  | .overflow counter origin =>
    ["`" ++ counter.name ++ "` overflows a 64-bit counter at " ++ origin.message]
  | .badDuration seconds =>
    ["duration must be a positive number of seconds, got " ++ Decimal.plain.write seconds]
  | .unreadable path fault => ["failed to read log file " ++ path, fault.message]

/-- Add to a sum that has to fit 64 bits. -/
def Counter.add (counter : Counter) (origin : Origin) (total amount : Nat) : Except Failure Nat :=
  if total + amount ≤ Decimal.wordLimit then .ok (total + amount)
  else .error (.overflow counter origin)

/-- The origin that a line is. -/
def LogLine.origin (line : LogLine) : Origin :=
  .line line.path line.number

end BenchLog
