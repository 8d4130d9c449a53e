import BenchLog.Latency.Sorted
import BenchLog.Tally

/-!
# Merged tallies

The tallies of all parts become one: each grouping holds the latencies of every part in ascending
order, and the sums of extra retries are added up once more within 64 bits.
-/

namespace BenchLog

/-- The latencies of each grouping in ascending order, and the sums of extra retries. -/
structure MergedTally where
  groups : Groups SortedLatencies
  extras : Sides Nat
  deriving DecidableEq

namespace MergedTally

/-- The merged tally of nothing. -/
def empty : MergedTally where
  groups := Groups.ofFn fun _ => .empty
  extras := ⟨0, 0, 0⟩

instance : Inhabited MergedTally := ⟨empty⟩

/-- Add the sums of one part. -/
def addExtras (total part : Sides Nat) : Except Failure (Sides Nat) := do
  let all ← Counter.extraAll.add .merge total.all part.all
  let committed ← Counter.extraCommitted.add .merge total.committed part.committed
  let aborted ← Counter.extraAborted.add .merge total.aborted part.aborted
  return ⟨all, committed, aborted⟩

/-- The latencies that the parts hold for a grouping, part by part. -/
def gather (parts : List Tally) (grouping : Grouping) : List Nat :=
  parts.flatMap fun part => (part.groups.get grouping).toList

/-- Merge the tallies of the parts. -/
def merge (parts : List Tally) : Except Failure MergedTally := do
  let extras ← (parts.map Tally.extras).foldlM addExtras ⟨0, 0, 0⟩
  return { groups := Groups.ofFn fun grouping => .ofList (gather parts grouping), extras }

/-- Tally every part and merge the tallies. The first part that fails is reported. -/
def ofParts (tracked : Tracked) (window? : Option Window) (parts : List (List LogLine)) :
    Except Failure MergedTally := do
  merge (← parts.mapM (Tally.ofLines tracked window?))

end MergedTally

end BenchLog
