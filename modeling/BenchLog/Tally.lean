import BenchLog.Grouping
import BenchLog.Window

/-!
# Tallies

A tally holds the latencies of each grouping in the order of the lines, and the sums of extra retries.
An entry counts first among all transactions and then by its outcome; a sum that no longer fits 64 bits
stops the count where it stands.
-/

namespace BenchLog

/-- One value for all transactions, one for the committed and one for the aborted ones. -/
structure Sides (α : Type) where
  all : α
  committed : α
  aborted : α
  deriving DecidableEq, Repr

/-- The latencies and the extra retries of some transactions. -/
structure Tally where
  groups : Groups (Array Nat)
  extras : Sides Nat
  deriving DecidableEq, Repr

namespace Tally

/-- The tally of nothing. -/
def empty : Tally where
  groups := ⟨#[], #[], #[], #[], #[], #[], #[]⟩
  extras := ⟨0, 0, 0⟩

instance : Inhabited Tally := ⟨empty⟩

/-- The number of transactions. -/
def size (tally : Tally) : Nat := tally.groups.all.size

/-- Put a latency at the end of some groupings. -/
def push (groups : Groups (Array Nat)) (latency : Nat) (member : Grouping → Bool) :
    Groups (Array Nat) where
  all := if member .all then groups.all.push latency else groups.all
  committed := if member .committed then groups.committed.push latency else groups.committed
  aborted := if member .aborted then groups.aborted.push latency else groups.aborted
  writeAborted :=
    if member .writeAborted then groups.writeAborted.push latency else groups.writeAborted
  readAborted :=
    if member .readAborted then groups.readAborted.push latency else groups.readAborted
  follow := if member .follow then groups.follow.push latency else groups.follow
  tweet := if member .tweet then groups.tweet.push latency else groups.tweet

theorem get_push (groups : Groups (Array Nat)) (latency : Nat) (member : Grouping → Bool)
    (grouping : Grouping) :
    (push groups latency member).get grouping =
      if member grouping then (groups.get grouping).push latency else groups.get grouping := by
  cases grouping <;> rfl

/-- Count an entry among all transactions. -/
def countAll (line : LogLine) (entry : Entry) (tally : Tally) : Except Failure Tally := do
  let sum ← Counter.extraAll.add line.origin tally.extras.all entry.extra
  return {
    groups := push tally.groups entry.latency (· == .all)
    extras := { tally.extras with all := sum } }

/-- Count an entry by its outcome. -/
def countOutcome (tracked : Tracked) (line : LogLine) (entry : Entry) (tally : Tally) :
    Except Failure Tally := do
  let extras ←
    if entry.outcome = .committed then
      let sum ← Counter.extraCommitted.add line.origin tally.extras.committed entry.extra
      pure { tally.extras with committed := sum }
    else
      let sum ← Counter.extraAborted.add line.origin tally.extras.aborted entry.extra
      pure { tally.extras with aborted := sum }
  return {
    groups := push tally.groups entry.latency fun grouping =>
      grouping != .all && grouping.holds tracked entry
    extras := extras }

/-- Count an entry. Beside the tally as it then stands comes the failure, if a sum became too large. -/
def record (tracked : Tracked) (line : LogLine) (entry : Entry) (tally : Tally) :
    Tally × Option Failure :=
  match tally.countAll line entry with
  | .error failure => (tally, some failure)
  | .ok counted =>
    match counted.countOutcome tracked line entry with
    | .error failure => (counted, some failure)
    | .ok complete => (complete, none)

/-- Read a line and count its entry if the window admits it. -/
def recordLine (tracked : Tracked) (window? : Option Window) (tally : Tally) (line : LogLine) :
    Except Failure Tally := do
  let entry ← Entry.ofLine line
  if Window.admits window? entry then
    match tally.record tracked line entry with
    | (counted, none) => return counted
    | (_, some failure) => throw failure
  else
    return tally

/-- The tally of some lines. The first line that fails is reported. -/
def ofLines (tracked : Tracked) (window? : Option Window) (lines : List LogLine) :
    Except Failure Tally :=
  lines.foldlM (recordLine tracked window?) empty

end Tally

end BenchLog
