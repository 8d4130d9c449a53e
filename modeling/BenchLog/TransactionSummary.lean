import BenchLog.Latency.Summary
import BenchLog.MergedTally

/-!
# Transaction summaries

Counts, shares, throughputs and latencies of the transactions of a run.
-/

namespace BenchLog

/-- How many transactions there are of each outcome. -/
structure Counts where
  total : Nat := 0
  committed : Nat := 0
  aborted : Nat := 0
  writeAborted : Nat := 0
  readAborted : Nat := 0
  deriving DecidableEq, Repr

/-- The counts of a tally. -/
def Counts.ofTally (tally : MergedTally) : Counts where
  total := tally.groups.all.size
  committed := tally.groups.committed.size
  aborted := tally.groups.aborted.size
  writeAborted := tally.groups.writeAborted.size
  readAborted := tally.groups.readAborted.size

/-- The shares of aborted transactions among all. -/
structure AbortRates where
  all : Float := 0
  write : Float := 0
  read : Float := 0
  deriving DecidableEq

/-- What is reported of the transactions of a run. -/
structure TransactionSummary where
  counts : Counts := {}
  abortRates : AbortRates := {}
  /-- Transactions in a second. -/
  throughput : Sides Float := ⟨0, 0, 0⟩
  latency : Sides LatencySummary := ⟨{}, {}, {}⟩
  /-- The mean latency of committed transactions that follow a user. -/
  followMean : Float := 0
  /-- The mean latency of committed transactions that post a tweet. -/
  tweetMean : Float := 0
  extras : Sides Nat := ⟨0, 0, 0⟩
  deriving DecidableEq

/-- Whether a number of seconds can divide a count. -/
def isDuration (seconds : Float) : Bool :=
  seconds.isFinite && 0 < seconds

namespace TransactionSummary

/-- The summary of a tally over a run of so many seconds. -/
def ofTally (tally : MergedTally) (duration : Float) : Except Failure TransactionSummary :=
  if !isDuration duration then
    .error (.badDuration duration)
  else if tally.groups.all.isEmpty then
    .error .noTransactions
  else
    let counts := Counts.ofTally tally
    let rate (count : Nat) : Float := Float.ofNat count / Float.ofNat counts.total
    let throughput (count : Nat) : Float := Float.ofNat count / duration
    .ok {
      counts := counts
      abortRates := ⟨rate counts.aborted, rate counts.writeAborted, rate counts.readAborted⟩
      throughput :=
        ⟨throughput counts.total, throughput counts.committed, throughput counts.aborted⟩
      latency :=
        ⟨.ofSorted tally.groups.all, .ofSorted tally.groups.committed,
          .ofSorted tally.groups.aborted⟩
      followMean := meanOf tally.groups.follow.toList
      tweetMean := meanOf tally.groups.tweet.toList
      extras := tally.extras }

end TransactionSummary

end BenchLog
