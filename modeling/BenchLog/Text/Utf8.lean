/-!
# Reading UTF-8

Bytes are scanned once, from left to right. A lead byte fixes how many bytes follow and where the next
one may lie; a byte outside those bounds ends the character as a fault and starts anew. So a fault is
the longest run of bytes that could have begun a character, and every byte belongs to exactly one unit.
-/

namespace BenchLog.Text.Utf8

/-- What a run of bytes stands for. -/
inductive Unit where
  /-- A whole character. -/
  | char (c : Char)
  /-- So many bytes that begin no character, because the next byte does not go on. -/
  | invalid (bytes : Nat)
  /-- So many bytes that begin a character, at the end of the input. -/
  | incomplete (bytes : Nat)
  deriving DecidableEq, Repr

namespace Unit

/-- The number of bytes in the run. -/
def size : Unit → Nat
  | .char c => c.utf8Size
  | .invalid bytes => bytes
  | .incomplete bytes => bytes

/-- The character, if it is one. -/
def char? : Unit → Option Char
  | .char c => some c
  | _ => none

/-- The character that is shown for the run: a fault is shown as the replacement character. -/
def shown : Unit → Char
  | .char c => c
  | _ => '\uFFFD'

end Unit

/-- A character of which some bytes are read and at least one is to come. -/
structure Unfinished where
  /-- The bits read. -/
  value : Nat
  /-- The number of bytes read. -/
  bytes : Nat
  /-- How many bytes follow after the next one. -/
  more : Nat
  /-- The least next byte. -/
  low : Nat
  /-- The greatest next byte. -/
  high : Nat
  deriving DecidableEq, Repr

/-- Start a character at a lead byte. The bounds on the second byte leave out overlong forms, surrogates
    and values above the last code point. -/
def start (byte : Nat) : Unit ⊕ Unfinished :=
  if byte < 0x80 then .inl (.char (Char.ofNat byte))
  else if byte < 0xC2 then .inl (.invalid 1)
  else if byte < 0xE0 then .inr ⟨byte - 0xC0, 1, 0, 0x80, 0xBF⟩
  else if byte = 0xE0 then .inr ⟨0, 1, 1, 0xA0, 0xBF⟩
  else if byte = 0xED then .inr ⟨0xD, 1, 1, 0x80, 0x9F⟩
  else if byte < 0xF0 then .inr ⟨byte - 0xE0, 1, 1, 0x80, 0xBF⟩
  else if byte = 0xF0 then .inr ⟨0, 1, 2, 0x90, 0xBF⟩
  else if byte < 0xF4 then .inr ⟨byte - 0xF0, 1, 2, 0x80, 0xBF⟩
  else if byte = 0xF4 then .inr ⟨4, 1, 2, 0x80, 0x8F⟩
  else .inl (.invalid 1)

/-- The units found so far, and the character being read. -/
structure Scan where
  units : Array Unit
  pending : Option Unfinished

namespace Scan

/-- Read a byte as the first one of a unit. -/
def lead (scan : Scan) (byte : Nat) : Scan :=
  match start byte with
  | .inl unit => ⟨scan.units.push unit, none⟩
  | .inr unfinished => ⟨scan.units, some unfinished⟩

/-- Read one byte. -/
def step (scan : Scan) (byte : UInt8) : Scan :=
  let byte := byte.toNat
  match scan.pending with
  | none => scan.lead byte
  | some u =>
    if u.low ≤ byte ∧ byte ≤ u.high then
      let value := u.value * 64 + byte % 64
      match u.more with
      | 0 => ⟨scan.units.push (.char (Char.ofNat value)), none⟩
      | more + 1 => ⟨scan.units, some ⟨value, u.bytes + 1, more, 0x80, 0xBF⟩⟩
    else
      lead ⟨scan.units.push (.invalid u.bytes), none⟩ byte

/-- The units at the end of the input. -/
def finish (scan : Scan) : List Unit :=
  match scan.pending with
  | none => scan.units.toList
  | some u => (scan.units.push (.incomplete u.bytes)).toList

end Scan

/-- The units of a byte sequence. -/
def scan (bytes : List UInt8) : List Unit :=
  (bytes.foldl Scan.step ⟨#[], none⟩).finish

/-- Where a byte sequence stops being UTF-8, and in which way. -/
structure Fault where
  /-- The number of bytes before the fault. -/
  index : Nat
  /-- The length of the faulty run, unless the input ends inside a character. -/
  length? : Option Nat
  deriving DecidableEq, Repr

namespace Fault

/-- The fault as a message has it. -/
def message (fault : Fault) : String :=
  match fault.length? with
  | some length =>
    "invalid utf-8 sequence of " ++ toString length ++ " bytes from index " ++ toString fault.index
  | none => "incomplete utf-8 byte sequence from index " ++ toString fault.index

end Fault

/-- The first fault among units that start at the given byte. -/
def faultFrom? (index : Nat) : List Unit → Option Fault
  | [] => none
  | .char c :: rest => faultFrom? (index + c.utf8Size) rest
  | .invalid bytes :: _ => some ⟨index, some bytes⟩
  | .incomplete _ :: _ => some ⟨index, none⟩

/-- The first fault of a scanned byte sequence. -/
def fault? (units : List Unit) : Option Fault :=
  faultFrom? 0 units

/-- The characters of a byte sequence, each fault replaced by one character. -/
def lossy (bytes : List UInt8) : List Char :=
  (scan bytes).map Unit.shown

/-- The characters of a byte sequence that is UTF-8 throughout. -/
def decode? (bytes : List UInt8) : Option (List Char) :=
  if (fault? (scan bytes)).isNone then some (lossy bytes) else none

end BenchLog.Text.Utf8
