import BenchLog.Latency.Sorted

/-!
# Latency summaries

The mean of a grouping and three of its order statistics.
-/

namespace BenchLog

/-- The sum from left to right. The sum of nothing is negative zero, which changes no other sum. -/
def sumFloats (numbers : List Float) : Float :=
  numbers.foldl (· + ·) (-0.0)

/-- The mean of integers, each taken as a floating-point number; zero if there are none. -/
def meanOf (numbers : List Nat) : Float :=
  if numbers.isEmpty then 0
  else sumFloats (numbers.map Float.ofNat) / Float.ofNat numbers.length

/-- The mean, the median and the two high percentiles of a grouping. -/
structure LatencySummary where
  mean : Float := 0
  median : Nat := 0
  p99 : Nat := 0
  p999 : Nat := 0
  deriving DecidableEq

namespace LatencySummary

/-- The summary of a grouping. -/
def ofSorted (latencies : SortedLatencies) : LatencySummary where
  mean := meanOf latencies.toList
  median := latencies.nearestRank 1 2
  p99 := latencies.nearestRank 99 100
  p999 := latencies.nearestRank 999 1000

end LatencySummary

end BenchLog
