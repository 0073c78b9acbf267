import CodeMetrics.Decimal.Basic
import CodeMetrics.Scan.Scanner

/-! What a scan reports of a project and how long it took, and how this is written as text. -/

namespace CodeMetrics

structure Elapsed where
  nanoseconds : Nat
  deriving DecidableEq, Repr

namespace Elapsed

def unit (elapsed : Elapsed) : String × Nat :=
  if elapsed.nanoseconds ≥ 1000000000 then ("s", 1000000000)
  else if elapsed.nanoseconds ≥ 1000000 then ("ms", 1000000)
  else if elapsed.nanoseconds ≥ 1000 then ("µs", 1000)
  else ("ns", 1)

def display (elapsed : Elapsed) : String :=
  let (name, length) := elapsed.unit
  let hundredths := Decimal.roundQuotient (elapsed.nanoseconds * 100) length
  toString (hundredths / 100) ++ "." ++ String.ofList (Decimal.paddedDigits 2 (hundredths % 100)) ++
    name

end Elapsed

abbrev MetricTable := List (StandardMetric × Float)

structure FileReport where
  key : String
  metrics : MetricTable
  remarks : List Remark
  deriving Repr

structure ScanReport where
  project : String
  summary : ScanSummary
  metrics : MetricTable
  files : List FileReport
  deriving Repr

def Entity.metricTable (entity : Entity) : MetricTable :=
  StandardMetric.all.map fun standard => (standard, entity.measure standard.metric)

def MetricTable.value (table : MetricTable) (standard : StandardMetric) : Float :=
  (table.lookup standard).getD 0.0

namespace ScanReport

def ofModel (model : Model) (summary : ScanSummary) : ScanReport where
  project := model.index.project.key
  summary
  metrics := model.index.project.metricTable
  files := (model.index.select [Query.ofKind .file]).map fun file =>
    { key := file.key, metrics := file.metricTable, remarks := file.remarks }

def summaryMetrics : List StandardMetric :=
  [.files, .packages, .lines, .linesOfCode, .blankLines, .commentLines, .commentBlankLines,
    .commentedOutCodeLines, .complexity, .commentLinesDensity]

def padRight (width : Nat) (text : String) : String :=
  text ++ String.ofList (List.replicate (width - text.length) ' ')

def padLeft (width : Nat) (text : String) : String :=
  String.ofList (List.replicate (width - text.length) ' ') ++ text

/-- The written value of a metric: a percentage if it is computed from others, else a whole
number. -/
def shown (standard : StandardMetric) (value : Float) : String :=
  if standard.isFormula then Decimal.fixed 1 (value * 100.0) ++ "%"
  else toString (wholeNumber value)

def metricLines (report : ScanReport) : List String :=
  summaryMetrics.map fun standard =>
    "  " ++ padRight 26 standard.name ++ " " ++ shown standard (report.metrics.value standard)

def complexityOf (file : FileReport) : Int :=
  wholeNumber (file.metrics.value .complexity)

/-- The files with the most complex ones in front. Files of the same complexity keep their order. -/
def byComplexity (files : List FileReport) : List FileReport :=
  files.mergeSort fun left right => complexityOf right ≤ complexityOf left

def complexLines (report : ScanReport) (top : Nat) : List String :=
  if top = 0 || report.files.isEmpty then []
  else
    "" :: "Most complex files" :: ((byComplexity report.files).take top).map fun file =>
      "  " ++ padLeft 5 (toString (complexityOf file)) ++ "  " ++ file.key

def failureLine (error : FileFailure) : String :=
  let place := match error.failure.line? with
    | some line => error.path.text ++ ":" ++ toString line
    | none => error.path.text
  "  " ++ place ++ ": " ++ error.failure.message

def failureLines (report : ScanReport) : List String :=
  let errors := report.summary.errors
  if errors.isEmpty then []
  else "" :: (toString errors.length ++ " files failed to parse") :: errors.map failureLine

/-- The report as lines. `elapsed` tells how long the scan took, and `top` how many of the most
complex files are listed. -/
def lines (report : ScanReport) (elapsed : String) (top : Nat) : List String :=
  let summary := report.summary
  let heading := "Scan " ++ summary.outcome.label ++ " (" ++ toString summary.scanned ++ "/" ++
    toString summary.total ++ " files, " ++ elapsed ++ ")"
  ["", heading, "", report.project] ++ report.metricLines ++ report.complexLines top ++
    report.failureLines

end ScanReport

end CodeMetrics
