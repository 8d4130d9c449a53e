import BenchLog.Decimal.Parts
import BenchLog.Decimal.Rounding

/-!
# Shortest decimals

Of the decimals that read back as a given floating-point number, the one on the coarsest grid of powers
of ten, and of two on that grid the nearer. If both are equally near, a rule for ties chooses.
-/

namespace BenchLog.Decimal

/-- The decimal number `digits * 10 ^ exponent`. -/
structure Scaled where
  digits : Nat
  exponent : Int
  deriving DecidableEq, Repr

/-- The reals that round to a number, in units of the fourth part of its last place. -/
structure Interval where
  low : Nat
  value : Nat
  high : Nat
  /-- Whether the two ends round to the number as well. -/
  closed : Bool
  /-- A unit is this power of two. -/
  exponent : Int
  deriving DecidableEq, Repr

namespace Interval

/-- The interval of `significand * 2 ^ exponent`. Below a power of two the numbers lie twice as dense,
    unless they are subnormal; the ends go to the number whose significand is even. -/
def ofFinite (significand : Nat) (exponent : Int) : Interval :=
  let narrow := significand == Nat.pow 2 52 && exponent != leastExponent
  { low := 4 * significand - (if narrow then 1 else 2)
    value := 4 * significand
    high := 4 * significand + 2
    closed := significand % 2 == 0
    exponent := exponent - 2 }

/-- Whether `point / scale` lies in the interval whose ends and value are multiplied by `factor`. -/
def holds (interval : Interval) (point factor : Nat) : Bool :=
  if interval.closed then
    interval.low * factor ≤ point && point ≤ interval.high * factor
  else
    interval.low * factor < point && point < interval.high * factor

/-- The point of the grid of multiples of `10 ^ k` that lies in the interval, nearest to the value. -/
def onGrid? (interval : Interval) (tie : Tie) (k : Int) : Option Nat :=
  let (factor, unit) := dyadic 1 interval.exponent
  let factor := if k < 0 then factor * Nat.pow 10 k.natAbs else factor
  let unit := if k < 0 then unit else unit * Nat.pow 10 k.natAbs
  let value := interval.value * factor
  let below := value / unit
  let isBelowIn := interval.holds (below * unit) factor
  let isAboveIn := interval.holds ((below + 1) * unit) factor
  match isBelowIn, isAboveIn with
  | true, true => some (roundDiv tie value unit)
  | true, false => some below
  | false, true => some (below + 1)
  | false, false => none

/-- The coarsest grid with a point in the interval, from the power `k` down. -/
def coarsest (interval : Interval) (tie : Tie) : Nat → Int → Scaled
  | 0, k => ⟨(interval.onGrid? tie k).getD 0, k⟩
  | tries + 1, k =>
    match interval.onGrid? tie k with
    | some digits => ⟨digits, k⟩
    | none => coarsest interval tie tries (k - 1)

end Interval

/-- A power of ten above the value of `significand * 2 ^ exponent`, by at most a factor of a hundred. -/
def powerAbove (significand : Nat) (exponent : Int) : Int :=
  let (num, den) := dyadic significand exponent
  if den ≤ num then (Nat.toDigits 10 (num / den)).length
  else 1 - (Nat.toDigits 10 (den / num)).length

/-- The shortest decimal that reads back as `significand * 2 ^ exponent`, and zero for zero. Seventeen
    digits always read back, so the search goes no further than that. -/
def shortest (tie : Tie) (significand : Nat) (exponent : Int) : Scaled :=
  if significand = 0 then ⟨0, 0⟩
  else (Interval.ofFinite significand exponent).coarsest tie 19 (powerAbove significand exponent)

end BenchLog.Decimal
