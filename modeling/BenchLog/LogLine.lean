import BenchLog.Text.Blank

/-!
# Log lines

A line of a log together with the place where it stands. Comments and blank lines carry no record.
-/

namespace BenchLog

/-- A line of a log file. -/
structure LogLine where
  /-- The file, as it was named. -/
  path : String
  /-- The place of the line in the file, from 1. -/
  number : Nat
  text : String
  deriving DecidableEq, Repr, Inhabited

/-- Whether a line is a comment. The marker has to be its first character. -/
def isComment (text : List Char) : Bool :=
  text.head? == some '#'

/-- Whether a line carries no record: a comment, or nothing but blanks. -/
def isIgnored (text : List Char) : Bool :=
  isComment text || text.all Text.isBlank

end BenchLog
