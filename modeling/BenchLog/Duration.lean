import BenchLog.Decimal.Literal
import BenchLog.Text.Blank
import BenchLog.Text.LowerCase

/-!
# Durations

A duration is a number with an optional unit: milliseconds, seconds, minutes or hours. Case and
surrounding blanks do not matter.
-/

namespace BenchLog.Duration

/-- A unit of time: how it is written, and how many seconds it has. -/
structure Unit where
  suffix : List Char
  seconds : Float

/-- The units, in the order in which they are looked for; a unit that ends like another one comes
    first. -/
def units : List Unit :=
  [⟨['m', 's'], 0.001⟩,
    ⟨['s', 'e', 'c'], 1⟩, ⟨['s'], 1⟩,
    ⟨['m', 'i', 'n'], 60⟩, ⟨['m'], 60⟩,
    ⟨['h', 'r'], 3600⟩, ⟨['h'], 3600⟩]

/-- The number and the seconds of its unit. A text without unit counts seconds. -/
def split (text : List Char) : List Char × Float :=
  match units.find? fun unit => unit.suffix.isSuffixOf text with
  | some unit => (text.take (text.length - unit.suffix.length), unit.seconds)
  | none => (text, 1)

/-- Why a text is no duration. -/
structure Fault where
  /-- The text without surrounding blanks, in lower case. -/
  text : List Char
  fault : Decimal.FloatFault
  deriving DecidableEq, Repr

/-- The fault in words, and the fault of the number. -/
def Fault.messages (fault : Fault) : List String :=
  ["Invalid duration format: " ++ String.ofList fault.text, fault.fault.message]

/-- The number of seconds that a text stands for. -/
def read (text : List Char) : Except Fault Float :=
  let lowered := Text.lower (Text.trim text)
  let (number, seconds) := split lowered
  match Decimal.readFloat (Text.trim number) with
  | .ok value => .ok (value * seconds)
  | .error fault => .error ⟨lowered, fault⟩

end BenchLog.Duration
