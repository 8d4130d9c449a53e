import BenchLog.Calendar

/-!
# Quantities in a text report

Latencies, rates, shares and moments, each in the unit that suits its size.
-/

namespace BenchLog.Quantity

/-- A latency in microseconds. Below a millisecond an integer has no places. -/
def micros (x : Float) : String :=
  if x < 1000 then
    Decimal.writePlaces (if Decimal.isIntegral x then 0 else 2) x ++ "us"
  else if x < 1000000 then
    Decimal.writePlaces 2 (x / 1000) ++ "ms"
  else
    Decimal.writePlaces 2 (x / 1000000) ++ "s"

/-- A number of events in a second. -/
def rate (x : Float) : String :=
  if x < 1000 then Decimal.writePlaces 0 x
  else if x < 1000000 then Decimal.writePlaces 2 (x / 1000) ++ "K"
  else if x < 1000000000 then Decimal.writePlaces 2 (x / 1000000) ++ "M"
  else Decimal.writePlaces 2 (x / 1000000000) ++ "G"

/-- A share of a whole, in percent. -/
def percent (x : Float) : String :=
  Decimal.writePlaces 2 (x * 100) ++ "%"

/-- The integer nearest to a number that is not negative, a half going up; zero for what is not a
    number. -/
def rounded (x : Float) : Nat :=
  match Decimal.Parts.ofFloat x with
  | .finite false significand exponent =>
    let (num, den) := Decimal.dyadic significand exponent
    Decimal.roundDiv .up num den
  | _ => 0

/-- The moment that lies so many seconds after the start of 1970, if that is a finite number. The
    fraction of the second is rounded to nanoseconds, and never up to a whole second. -/
def moment? (seconds : Float) : Option Timestamp :=
  (Decimal.floor? seconds).map fun whole =>
    { seconds := whole
      nanoseconds := min (rounded ((seconds - Float.ofInt whole) * 1000000000)) 999999999 }

/-- A moment given in seconds after the start of 1970, as a date if the calendar reaches it. What is not
    a number counts as that start. -/
def time (seconds : Float) : String :=
  match moment? (if seconds.isNaN then 0 else seconds) with
  | some moment =>
    if Timestamp.earliest ≤ moment.seconds ∧ moment.seconds ≤ Timestamp.latest then moment.write
    else Decimal.writePlaces 6 seconds
  | none => Decimal.writePlaces 6 seconds

end BenchLog.Quantity
