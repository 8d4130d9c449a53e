import BenchLog.Entry
import BenchLog.Latency.Summary

/-!
# Microbenchmark summaries

A microbenchmark client prints one line at its end, with its throughput and its latencies. The clients
of a run are summed up in one summary: throughputs add, latencies are averaged.
-/

namespace BenchLog

/-- What one client reports. -/
structure ClientSummary where
  throughput : Nat
  /-- Latencies in microseconds. -/
  median : Nat
  p99 : Nat
  p999 : Nat
  mean : Float
  deriving DecidableEq

namespace ClientSummary

/-- The labels of a line and the places of the words where they stand, from zero. -/
def labels : List (Nat × String) :=
  [(5, "throughput:"), (8, "median"), (9, "latency:"), (12, "99%"), (13, "latency:"),
    (16, "99.9%"), (17, "latency:"), (20, "mean:")]

/-- The number of words up to the last value. -/
def wordCount : Nat := 22

/-- The word at a place. -/
def wordAt (words : List (List Char)) (position : Nat) : List Char :=
  words[position]?.getD []

/-- Check that a label stands at its place. -/
def checkLabel (words : List (List Char)) (label : Nat × String) : Except Reason Unit :=
  let found := wordAt words label.1
  if found = label.2.toList then .ok () else .error (.label label.2 label.1 found)

/-- Read the words of a line: first all labels are checked, then the values are read. -/
def ofWords (words : List (List Char)) : Except Reason ClientSummary := do
  if words.length < wordCount then throw (.tokenCount words.length)
  labels.forM (checkLabel words)
  return {
    throughput := ← Entry.natField "throughput" Decimal.wordLimit (wordAt words 6)
    median := ← Entry.natField "median latency" Decimal.wordLimit (wordAt words 10)
    p99 := ← Entry.natField "99% latency" Decimal.wordLimit (wordAt words 14)
    p999 := ← Entry.natField "99.9% latency" Decimal.wordLimit (wordAt words 18)
    mean := ← Entry.floatField "mean latency" (wordAt words 21) }

/-- The text without blanks at its end and then without one full stop. -/
def dropStop (text : List Char) : List Char :=
  let text := Text.trimEnd text
  if text.getLast? = some '.' then text.dropLast else text

/-- Read a line. -/
def ofLine (line : LogLine) : Except Failure ClientSummary :=
  (ofWords (Text.words (dropStop line.text.toList))).mapError (.malformed line)

end ClientSummary

/-- What is reported of all clients of a run. -/
structure MicrobenchSummary where
  clients : Nat := 0
  throughput : Nat := 0
  /-- Means over the clients, in microseconds. -/
  mean : Float := 0
  median : Float := 0
  p99 : Float := 0
  p999 : Float := 0
  deriving DecidableEq

namespace MicrobenchSummary

/-- Add the throughput of one client. -/
def addThroughput (total : Nat) (client : LogLine × ClientSummary) : Except Failure Nat :=
  Counter.throughput.add client.1.origin total client.2.throughput

/-- Read the line of a client and keep where it stands. -/
def readClient (line : LogLine) : Except Failure (LogLine × ClientSummary) :=
  return (line, ← ClientSummary.ofLine line)

/-- The summary of all clients. Comments are passed over. -/
def ofLines (lines : List LogLine) : Except Failure MicrobenchSummary := do
  let clients ← (lines.filter fun line => !isComment line.text.toList).mapM readClient
  if clients.isEmpty then throw .noInput
  let throughput ← clients.foldlM addThroughput 0
  let summaries := clients.map Prod.snd
  return {
    clients := clients.length
    throughput := throughput
    mean := sumFloats (summaries.map (·.mean)) / Float.ofNat clients.length
    median := meanOf (summaries.map (·.median))
    p99 := meanOf (summaries.map (·.p99))
    p999 := meanOf (summaries.map (·.p999)) }

end MicrobenchSummary

end BenchLog
