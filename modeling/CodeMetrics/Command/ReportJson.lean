import CodeMetrics.Command.JsonValue
import CodeMetrics.Command.Report

/-! The report of a scan in JSON. -/

namespace CodeMetrics

def ScanOutcome.slug : ScanOutcome → String
  | .succeeded => "succeeded"
  | .completedWithErrors => "completed_with_errors"
  | .cancelled => "cancelled"
  | .failed => "failed"

namespace ScanReport

def metricsJson (table : MetricTable) : JsonValue :=
  let named := table.map fun (standard, value) => (standard.name, JsonValue.number value)
  .object (named.mergeSort fun left right => !decide (right.1 < left.1))

def failureJson (error : FileFailure) : JsonValue :=
  .object [("path", .text error.path.text),
    ("line", JsonValue.ofOption .natural error.failure.line?),
    ("message", .text error.failure.message)]

def remarkJson (remark : Remark) : JsonValue :=
  .object [("line", JsonValue.ofOption .natural remark.line?), ("rule", .text remark.rule),
    ("message", .text remark.text)]

def fileJson (file : FileReport) : JsonValue :=
  .object [("key", .text file.key), ("metrics", metricsJson file.metrics),
    ("messages", .array (file.remarks.map remarkJson))]

def summaryJson (summary : ScanSummary) (elapsed : Elapsed) : JsonValue :=
  .object [("status", .text summary.outcome.slug), ("total_files", .natural summary.total),
    ("scanned_files", .natural summary.scanned),
    ("errors", .array (summary.errors.map failureJson)),
    ("elapsed", .object [("secs", .natural (elapsed.nanoseconds / 1000000000)),
      ("nanos", .natural (elapsed.nanoseconds % 1000000000))])]

def json (report : ScanReport) (elapsed : Elapsed) : JsonValue :=
  .object [("project", .text report.project), ("report", summaryJson report.summary elapsed),
    ("metrics", metricsJson report.metrics), ("files", .array (report.files.map fileJson))]

end ScanReport

end CodeMetrics
