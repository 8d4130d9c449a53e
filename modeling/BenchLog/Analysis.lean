import BenchLog.Partition
import BenchLog.Settings
import BenchLog.TransactionSummary

/-!
# Analysis of transactions

The lines of all logs are cut into parts, each part is tallied, and the tallies are merged and
summarized. With a window, a first pass over the parts finds when the first transaction ended.
-/

namespace BenchLog

/-- A summary with the tally it was computed from and the window that was applied. -/
structure Analysis where
  summary : TransactionSummary
  tally : MergedTally
  window : Option Window
  deriving DecidableEq

namespace Analysis

/-- The parts of a nonempty list of lines. A part for each line is the most that is of use, so a vector
    that can hold the lines can hold the parts. -/
def parts (lines : List LogLine) (workers : Nat) : List (List LogLine) :=
  slices lines (min (max workers 1) lines.length)

/-- The window that the settings ask for. -/
def windowOf (settings : Settings) (parts : List (List LogLine)) : Except Failure (Option Window) :=
  if settings.window then do
    let firstEnd ← Window.earliestEnd parts
    return some (.afterWarmup firstEnd settings.warmup settings.duration)
  else
    return none

/-- Analyze the lines of a run. -/
def ofLines (lines : List LogLine) (settings : Settings) : Except Failure Analysis := do
  if lines.isEmpty then throw .noInput
  let parts := parts lines settings.workers
  let window ← windowOf settings parts
  let tally ← MergedTally.ofParts settings.tracked window parts
  let summary ← TransactionSummary.ofTally tally settings.duration
  return { summary, tally, window }

end Analysis

end BenchLog
