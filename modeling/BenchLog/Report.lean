import BenchLog.Csv
import BenchLog.Report.Record
import BenchLog.Report.Text
import BenchLog.Settings

/-!
# Reports

What an analysis found, and the document that shows it in each format.
-/

namespace BenchLog

/-- What an analysis found. -/
inductive Report where
  | transactions (summary : TransactionSummary) (window : Option Window)
      (histogram : Option Histogram)
  | microbench (summary : MicrobenchSummary)

namespace Report

/-- The fields of the summary. -/
def fields : Report → List (String × Statistic)
  | .transactions summary _ _ => summary.fields
  | .microbench summary => summary.fields

/-- The summary as a record. -/
def record (report : Report) : Json :=
  .object (report.fields.map fun field => (field.1, field.2.toJson))

/-- The lines of the text report. -/
def textLines : Report → List String
  | .transactions summary window histogram => TextReport.transactionLines summary window histogram
  | .microbench summary => TextReport.microbenchLines summary

/-- The document of a report. One of JSON is written from the fields, one of CSV from their values. -/
def document (report : Report) : Format → Except Csv.Fault String
  | .json => .ok (FieldWriter.document report.fields)
  | .csv => Csv.document report.record
  | .text => .ok (TextReport.document report.textLines)

end Report

end BenchLog
