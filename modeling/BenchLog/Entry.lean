import BenchLog.Failure

/-!
# Entries

A client writes one line for each transaction it finished. The line has five fields, or seven if the
transaction carries the kind of work it did and its extra retries.
-/

namespace BenchLog

/-- How a transaction ended. -/
inductive Outcome where
  | committed
  /-- A transaction that writes was aborted. -/
  | writeAborted
  /-- A transaction that only reads was aborted. -/
  | readAborted
  deriving DecidableEq, Repr

/-- The outcome that a status code stands for. -/
def Outcome.ofCode? : Nat → Option Outcome
  | 1 => some .committed
  | 2 => some .writeAborted
  | 3 => some .readAborted
  | _ => none

/-- A finished transaction. -/
structure Entry where
  /-- The client's number for the transaction. -/
  id : Nat
  /-- When the transaction started, in seconds. -/
  start : Float
  /-- When the transaction ended, in seconds. -/
  finish : Float
  /-- How long the client waited, in microseconds. -/
  latency : Nat
  outcome : Outcome
  /-- The kind of work, `Entry.untagged` if the line does not say. -/
  kind : Int
  /-- Retries beyond the first attempt. -/
  extra : Nat
  deriving DecidableEq

namespace Entry

/-- The kind of an entry whose line does not give one. -/
def untagged : Int := -1

/-- Read a field as an unsigned integer. -/
def natField (name : String) (limit : Nat) (raw : List Char) : Except Reason Nat :=
  (Decimal.readUnsigned limit raw).mapError fun fault => .badField name raw (.integer fault)

/-- Read a field as a signed integer of 64 bits. -/
def intField (name : String) (raw : List Char) : Except Reason Int :=
  (Decimal.readSigned Decimal.signedLimit raw).mapError fun fault =>
    .badField name raw (.integer fault)

/-- Read a field as a floating-point number. -/
def floatField (name : String) (raw : List Char) : Except Reason Float :=
  (Decimal.readFloat raw).mapError fun fault => .badField name raw (.float fault)

/-- Read a field as a status code. -/
def outcomeField (raw : List Char) : Except Reason Outcome := do
  let code ← natField "status" Decimal.byteLimit raw
  match Outcome.ofCode? code with
  | some outcome => return outcome
  | none => throw (.unknownStatus code)

/-- Read the five fields that every line has. The status is looked at first. -/
def ofFields (id start finish latency status : List Char) (kind : Int) (extra : Nat) :
    Except Reason Entry := do
  let outcome ← outcomeField status
  let id ← natField "txn_id" Decimal.wordLimit id
  let start ← floatField "start_time" start
  let finish ← floatField "end_time" finish
  let latency ← natField "latency" Decimal.wordLimit latency
  return { id, start, finish, latency, outcome, kind, extra }

/-- Read the words of a line. The two fields of a tagged line are looked at before the others. -/
def ofWords : List (List Char) → Except Reason Entry
  | [id, start, finish, latency, status] => ofFields id start finish latency status untagged 0
  | [id, start, finish, latency, status, kind, extra] => do
    let kind ← intField "txn_type" kind
    let extra ← natField "extra" Decimal.wordLimit extra
    ofFields id start finish latency status kind extra
  | fields => throw (.fieldCount fields.length)

/-- Read a line. Only its words matter. -/
def ofLine (line : LogLine) : Except Failure Entry :=
  (ofWords (Text.words line.text.toList)).mapError (.malformed line)

end Entry

end BenchLog
