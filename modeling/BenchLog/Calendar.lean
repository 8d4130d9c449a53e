import BenchLog.Decimal.Places

/-!
# Dates and timestamps

Days are counted from the first of January 1970 and dates follow the Gregorian rules in both directions.
A timestamp is written in UTC with microseconds.
-/

namespace BenchLog

/-- A day of the Gregorian calendar. -/
structure Date where
  year : Int
  month : Nat
  day : Nat
  deriving DecidableEq, Repr

namespace Date

/-- Whether a year has a 29th of February. -/
def isLeapYear (year : Int) : Bool :=
  year % 4 == 0 && (year % 100 != 0 || year % 400 == 0)

/-- The number of days of a month. -/
def daysInMonth (year : Int) (month : Nat) : Nat :=
  match month with
  | 2 => if isLeapYear year then 29 else 28
  | 4 | 6 | 9 | 11 => 30
  | _ => 31

/-- The number of days in four centuries, after which dates repeat. -/
def cycle : Nat := 146097

/-- The date of a day. Years are counted from March, so that the leap day is the last one of its year,
    and days from the first of March of year zero. -/
def ofDay (day : Int) : Date :=
  let fromMarch := day + 719468
  let dayOfCycle := (fromMarch % cycle).toNat
  let yearOfCycle :=
    (dayOfCycle - dayOfCycle / 1460 + dayOfCycle / 36524 - dayOfCycle / (cycle - 1)) / 365
  let dayOfYear := dayOfCycle - (365 * yearOfCycle + yearOfCycle / 4 - yearOfCycle / 100)
  let monthFromMarch := (5 * dayOfYear + 2) / 153
  let month := if monthFromMarch < 10 then monthFromMarch + 3 else monthFromMarch - 9
  let year := fromMarch / cycle * 400 + yearOfCycle
  { year := if month ≤ 2 then year + 1 else year
    month := month
    day := dayOfYear - (153 * monthFromMarch + 2) / 5 + 1 }

/-- A year has four digits. Outside these it also has a sign. -/
def writeYear (year : Int) : String :=
  let digits := String.ofList (Decimal.padded 4 year.natAbs)
  if year < 0 then "-" ++ digits
  else if 9999 < year then "+" ++ digits
  else digits

end Date

/-- A number of at most two digits, with a leading zero if it has one digit. -/
def twoDigits (n : Nat) : String :=
  String.ofList (Decimal.padded 2 n)

/-- A moment, in whole seconds from the start of 1970 and nanoseconds after them. -/
structure Timestamp where
  seconds : Int
  nanoseconds : Nat
  deriving DecidableEq, Repr

namespace Timestamp

/-- The first second of the earliest year that has a date. -/
def earliest : Int := -8334601228800

/-- The last second of the latest year that has a date. -/
def latest : Int := 8210266876799

/-- The moment in UTC, with microseconds. -/
def write (moment : Timestamp) : String :=
  let date := Date.ofDay (moment.seconds / 86400)
  let second := (moment.seconds % 86400).toNat
  Date.writeYear date.year ++ "-" ++ twoDigits date.month ++ "-" ++ twoDigits date.day ++ "T" ++
    twoDigits (second / 3600) ++ ":" ++ twoDigits (second / 60 % 60) ++ ":" ++
    twoDigits (second % 60) ++ "." ++
    String.ofList (Decimal.padded 6 (moment.nanoseconds / 1000)) ++ "Z"

end Timestamp

end BenchLog
