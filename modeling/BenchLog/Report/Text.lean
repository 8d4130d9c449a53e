import BenchLog.Latency.Histogram
import BenchLog.Microbench
import BenchLog.Report.Quantity
import BenchLog.Text.Column
import BenchLog.TransactionSummary

/-!
# Text reports

A report for people to read. It is a list of lines between two rules.
-/

namespace BenchLog.TextReport

/-- The width of a report. -/
def width : Nat := 59

/-- A rule across the report. -/
def rule : String :=
  String.ofList (List.replicate width '═')

/-- The title between two rules. -/
def banner (title : String) : List String :=
  [rule, Text.centre width title, rule, ""]

/-- A line of the latency table. -/
def row (label mean median p99 p999 : String) : String :=
  "  " ++ Text.alignLeft 10 label ++ " " ++ Text.alignRight 10 mean ++ " " ++
    Text.alignRight 10 median ++ " " ++ Text.alignRight 10 p99 ++ " " ++ Text.alignRight 10 p999

/-- The line of a grouping in the latency table. -/
def latencyRow (label : String) (summary : LatencySummary) : String :=
  row label (Quantity.micros summary.mean) (Quantity.micros (Float.ofNat summary.median))
    (Quantity.micros (Float.ofNat summary.p99)) (Quantity.micros (Float.ofNat summary.p999))

/-- The window, if one was applied. -/
def windowLines : Option Window → List String
  | none => []
  | some window =>
    ["Window:", "  Start: " ++ Quantity.time window.start, "  End:   " ++ Quantity.time window.stop, ""]

/-- The percentiles that are shown of a histogram. -/
def percentiles : List Float := [50, 90, 95, 99, 99.9, 99.99]

/-- A latency of a histogram. -/
def histogramLatency (latency : Nat) : String :=
  Quantity.micros (Float.ofNat latency)

/-- The histogram, if there is one with anything in it. -/
def histogramLines : Option Histogram → List String
  | none => []
  | some histogram =>
    if histogram.isEmpty then []
    else
      ["", "Distribution (all, 3 significant digits):",
        "  Min:    " ++ histogramLatency histogram.least,
        "  Max:    " ++ histogramLatency histogram.greatest] ++
      percentiles.map fun percent =>
        "  p" ++ Text.alignLeft 6 (Decimal.plain.write percent) ++ " " ++
          histogramLatency (histogram.percentile percent)

/-- The lines of a report about transactions. -/
def transactionLines (summary : TransactionSummary) (window : Option Window)
    (histogram : Option Histogram) : List String :=
  banner "BENCHMARK RESULTS" ++
  windowLines window ++
  ["Transactions:",
    "  Total:            " ++ toString summary.counts.total,
    "  Successful:       " ++ toString summary.counts.committed,
    "  Failed:           " ++ toString summary.counts.aborted ++ " (" ++
      Quantity.percent summary.abortRates.all ++ " abort rate)",
    "    Write aborts:   " ++ toString summary.counts.writeAborted ++ " (" ++
      Quantity.percent summary.abortRates.write ++ ")",
    "    Read-only:      " ++ toString summary.counts.readAborted ++ " (" ++
      Quantity.percent summary.abortRates.read ++ ")",
    "",
    "Throughput:",
    "  All:     " ++ Quantity.rate summary.throughput.all ++ " txn/s",
    "  Success: " ++ Quantity.rate summary.throughput.committed ++ " txn/s",
    "  Failure: " ++ Quantity.rate summary.throughput.aborted ++ " txn/s",
    "",
    "Latency:",
    row "" "mean" "median" "p99" "p99.9",
    latencyRow "all" summary.latency.all,
    latencyRow "success" summary.latency.committed,
    latencyRow "failure" summary.latency.aborted,
    "",
    "Success latency by type:",
    "  Follow: " ++ Quantity.micros summary.followMean,
    "  Tweet:  " ++ Quantity.micros summary.tweetMean,
    "",
    "Extra retries:",
    "  All:     " ++ toString summary.extras.all,
    "  Success: " ++ toString summary.extras.committed,
    "  Failure: " ++ toString summary.extras.aborted] ++
  histogramLines histogram ++
  [rule]

/-- The lines of a report about a microbenchmark. -/
def microbenchLines (summary : MicrobenchSummary) : List String :=
  banner "MICROBENCHMARK RESULTS" ++
  ["Clients:    " ++ toString summary.clients,
    "Throughput: " ++ Quantity.rate (Float.ofNat summary.throughput) ++ " IOPS",
    "",
    "Latency (mean across clients):",
    "  Mean:   " ++ Quantity.micros summary.mean,
    "  Median: " ++ Quantity.micros summary.median,
    "  p99:    " ++ Quantity.micros summary.p99,
    "  p99.9:  " ++ Quantity.micros summary.p999,
    rule]

/-- Lines as a document. -/
def document (lines : List String) : String :=
  String.join (lines.map (· ++ "\n"))

end BenchLog.TextReport
