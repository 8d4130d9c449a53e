import BenchLog.Json
import BenchLog.Microbench
import BenchLog.TransactionSummary

/-!
# Summaries as fields

The fields of a summary in the order in which documents have them. A document of JSON is written field by
field as they come; for other uses a field has a value of JSON.
-/

namespace BenchLog

/-- What a field tells: how many there are, or how much it is. -/
inductive Statistic where
  | count (n : Nat)
  | measure (x : Float)

namespace Statistic

/-- The statistic as it is written. Infinity and what is not a number cannot be written. -/
def write : Statistic → String
  | .count n => toString n
  | .measure x => if x.isFinite then Json.realStyle.write x else "null"

/-- The statistic as a value. -/
def toJson : Statistic → Json
  | .count n => .ofNat n
  | .measure x => .ofFloat x

end Statistic

/-- The fields of a latency summary; `side` names the transactions it is about. -/
def LatencySummary.fields (summary : LatencySummary) (side : String) : List (String × Statistic) :=
  [("average_latency_" ++ side, .measure summary.mean),
    ("median_latency_" ++ side, .count summary.median),
    ("p99_latency_" ++ side, .count summary.p99),
    ("p999_latency_" ++ side, .count summary.p999)]

/-- The fields of a transaction summary. -/
def TransactionSummary.fields (summary : TransactionSummary) : List (String × Statistic) :=
  [("num_transactions", .count summary.counts.total),
    ("num_successful_transactions", .count summary.counts.committed),
    ("num_failed_transactions", .count summary.counts.aborted),
    ("num_failed_write_transactions", .count summary.counts.writeAborted),
    ("num_failed_readonly_transactions", .count summary.counts.readAborted),
    ("abort_rate", .measure summary.abortRates.all),
    ("write_txn_abort_rate", .measure summary.abortRates.write),
    ("readonly_txn_abort_rate", .measure summary.abortRates.read),
    ("throughput_all", .measure summary.throughput.all),
    ("throughput_success", .measure summary.throughput.committed),
    ("throughput_failure", .measure summary.throughput.aborted)] ++
  summary.latency.all.fields "all" ++
  summary.latency.committed.fields "success" ++
  summary.latency.aborted.fields "failure" ++
  [("follow_txn_avg_latency_success", .measure summary.followMean),
    ("tweet_txn_avg_latency_success", .measure summary.tweetMean),
    ("extra_all", .count summary.extras.all),
    ("extra_success", .count summary.extras.committed),
    ("extra_failure", .count summary.extras.aborted)]

/-- The fields of a microbenchmark summary. -/
def MicrobenchSummary.fields (summary : MicrobenchSummary) : List (String × Statistic) :=
  [("num_clients", .count summary.clients),
    ("throughput_all", .count summary.throughput),
    ("average_latency_all", .measure summary.mean),
    ("median_latency_all", .measure summary.median),
    ("p99_latency_all", .measure summary.p99),
    ("p999_latency_all", .measure summary.p999)]

/-- A document of JSON that is being written. -/
structure FieldWriter where
  text : String
  /-- Whether it has a field yet. -/
  begun : Bool

namespace FieldWriter

/-- A document without fields that is still open. -/
def start : FieldWriter := ⟨"\x7b", false⟩

/-- Write one more field, on a line of its own. -/
def field (writer : FieldWriter) (name : String) (value : Statistic) : FieldWriter :=
  ⟨writer.text ++ (if writer.begun then ",\n    " else "\n    ") ++ Json.writeText name ++ ": " ++
    value.write, true⟩

/-- Close the document. -/
def finish (writer : FieldWriter) : String :=
  writer.text ++ (if writer.begun then "\n\x7d" else "\x7d") ++ "\n"

/-- The document of some fields. -/
def document (fields : List (String × Statistic)) : String :=
  (fields.foldl (fun writer field => writer.field field.1 field.2) start).finish

end FieldWriter

end BenchLog
