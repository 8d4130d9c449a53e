import BenchLog.Entry

/-!
# Time windows

Measuring may start some time after the first transaction ended and lasts for a given time. A
transaction counts if it ended inside the window, both ends included.
-/

namespace BenchLog

/-- The smaller of two numbers, and the second one if they are equal, as the two zeros are. What is not a
    number is passed over. -/
def smaller (a b : Float) : Float :=
  if b.isNaN then a
  else if a < b then a
  else b

/-- A span of time, in seconds. -/
structure Window where
  start : Float
  stop : Float
  deriving DecidableEq

namespace Window

/-- The window that opens after the warmup and stays open for the duration. -/
def afterWarmup (firstEnd warmup duration : Float) : Window where
  start := firstEnd + warmup
  stop := firstEnd + warmup + duration

/-- Whether a moment lies in the window. What is not a number does not. -/
def contains (window : Window) (time : Float) : Bool :=
  window.start ≤ time && time ≤ window.stop

/-- Whether a transaction counts: it ended inside the window, if there is one. -/
def admits (window? : Option Window) (entry : Entry) : Bool :=
  window?.all (·.contains entry.finish)

@[simp] theorem admits_none (entry : Entry) : admits none entry = true := rfl

/-- The smaller of a number and the one found so far, if any. -/
def least (found? : Option Float) (time : Float) : Float :=
  (found?.map (smaller · time)).getD time

/-- The earliest end of a transaction in one part; none if the part is empty. -/
def earliestIn (lines : List LogLine) : Except Failure (Option Float) :=
  lines.foldlM (fun found? line => return some (least found? (← Entry.ofLine line).finish)) none

/-- The earliest end of a transaction in all parts. Every line has to be an entry; of several that are
    not, the first one is reported. -/
def earliestEnd (parts : List (List LogLine)) : Except Failure Float := do
  let found ← parts.mapM earliestIn
  match (found.filterMap id).foldl (fun found? time => some (least found? time)) none with
  | some time => return time
  | none => throw .noInput

end Window

end BenchLog
