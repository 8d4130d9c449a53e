import BenchLog.Failure
import BenchLog.Text.Lines

/-!
# Log files

A log file is text. Bytes that are not are reported as a malformed line: the line feeds around the first
fault are looked for among the bytes, and what lies between them is shown with each fault replaced.
-/

namespace BenchLog

/-- A log file in memory. -/
structure LogFile where
  path : String
  text : String
  deriving DecidableEq, Repr

namespace LogFile

/-- Where the line with a place begins: behind the last line feed before the place. -/
def lineStart (bytes : List UInt8) (index : Nat) : Nat :=
  match (bytes.take index).reverse.findIdx? (· == 10) with
  | some back => index - back
  | none => 0

/-- Where the line with a place ends: at the first line feed from the place on. -/
def lineEnd (bytes : List UInt8) (index : Nat) : Nat :=
  match (bytes.drop index).findIdx? (· == 10) with
  | some ahead => index + ahead
  | none => bytes.length

/-- The line with a place, as it is shown to the user. -/
def faultyLine (path : String) (bytes : List UInt8) (index : Nat) : LogLine :=
  let line := (bytes.take (lineEnd bytes index)).drop (lineStart bytes index)
  { path := path
    number := (bytes.take index).count 10 + 1
    text := String.ofList (Text.dropReturns (Text.Utf8.lossy line)) }

/-- The file that holds these bytes. -/
def ofBytes (path : String) (bytes : List UInt8) : Except Failure LogFile :=
  let units := Text.Utf8.scan bytes
  match Text.Utf8.fault? units with
  | none => .ok ⟨path, String.ofList (units.map Text.Utf8.Unit.shown)⟩
  | some fault => .error (.malformed (faultyLine path bytes fault.index) (.notText fault))

/-- The lines that carry a record, with their numbers among all lines of the file. -/
def lines (file : LogFile) : List LogLine :=
  ((Text.physicalLines file.text.toList).zipIdx 1).filterMap fun (text, number) =>
    if isIgnored text then none
    else some { path := file.path, number := number, text := String.ofList text }

end LogFile

/-- The lines of several files, one file after the other. -/
def collectLines (files : List LogFile) : List LogLine :=
  files.flatMap LogFile.lines

end BenchLog
