import BenchLog.Decimal.Parts
import BenchLog.Latency.Summary

/-!
# Latency histograms

A histogram counts latencies in cells that keep three significant digits: up to 2048 each latency has
its own cell, and from there on the cells double in size with every power of two. A percentile is read
from the cell that holds the latency of that rank.
-/

namespace BenchLog

/-- Latencies seen at three significant digits. -/
structure Histogram where
  latencies : SortedLatencies
  deriving DecidableEq

namespace Histogram

/-- The greatest latency there is. -/
def maxLatency : Nat := Nat.pow 2 64 - 1

/-- The number of bits of a number. -/
def bitLength (n : Nat) : Nat :=
  if n = 0 then 0 else n.log2 + 1

/-- The size of the cell that holds a latency: eleven bits tell cells apart. -/
def cellSize (latency : Nat) : Nat :=
  Nat.pow 2 (bitLength latency - 11)

/-- The least latency of the cell that holds the given one. -/
def lowest (latency : Nat) : Nat :=
  latency - latency % cellSize latency

/-- The greatest latency of the cell that holds the given one. The cell at the upper end is cut short,
    and its last latency stands for itself. -/
def highest (latency : Nat) : Nat :=
  if latency = maxLatency then maxLatency
  else min (lowest latency + cellSize latency) maxLatency - 1

/-- The number of latencies counted. -/
def size (histogram : Histogram) : Nat := histogram.latencies.size

/-- Whether nothing is counted. -/
def isEmpty (histogram : Histogram) : Bool := histogram.latencies.isEmpty

/-- The least latency, at the lower end of its cell. -/
def least (histogram : Histogram) : Nat :=
  let latency := histogram.latencies.toList.head?.getD 0
  if latency = maxLatency then maxLatency else lowest latency

/-- The greatest latency, at the upper end of its cell. -/
def greatest (histogram : Histogram) : Nat :=
  let latency := histogram.latencies.toList.getLast?.getD 0
  if latency = 0 then 0 else highest latency

/-- How many latencies, counted from the least, reach a fraction of all of them: at least one. -/
def countAt (size : Nat) (quantile : Float) : Nat :=
  max 1 ((Decimal.ceil? (quantile * Float.ofNat size)).getD 0).toNat

/-- The latency at a percentile, at the upper end of its cell; at the lower end for percentile zero. -/
def percentile (histogram : Histogram) (percent : Float) : Nat :=
  let quantile := if 1 < percent / 100 then 1 else percent / 100
  match histogram.latencies.toList[countAt histogram.size quantile - 1]? with
  | none => 0
  | some latency => if quantile == 0 then lowest latency else highest (lowest latency)

end Histogram

end BenchLog
