import CodeMetrics.Measures

/-!
Metrics: named quantities, how each one spreads through the entity tree, the formulas of those that
are computed from others, and the standard metrics.
-/

namespace CodeMetrics

inductive Aggregation where
  /-- The own value plus the aggregated values of all children. -/
  | sum
  /-- Computed from the aggregated values of the same entity. -/
  | formula
  /-- Kept as it was set. -/
  | none
  deriving DecidableEq, Repr

def Aggregation.name : Aggregation → String
  | .sum => "sum"
  | .formula => "formula"
  | .none => "none"

structure Metric where
  name : String
  aggregation : Aggregation
  formula? : Option (Measures → Float) := .none

/-! Formulas. Every ratio over zero is zero. -/

namespace Formula

def ratio (numerator denominator : Float) : Float :=
  if denominator == 0.0 then 0.0 else numerator / denominator

def instability (table : Measures) : Float :=
  let afferent := table.value "ca"
  let efferent := table.value "ce"
  ratio efferent (afferent + efferent)

def abstractness (table : Measures) : Float :=
  ratio (table.value "interfaces" + table.value "abstract_classes") (table.value "classes")

/-- The distance from the main sequence, on which abstractness and instability add up to one. -/
def distance (table : Measures) : Float :=
  (abstractness table + instability table - 1.0).abs

def commentLinesDensity (table : Measures) : Float :=
  let comments := table.value "comment_lines"
  ratio comments (table.value "lines_of_code" + comments)

end Formula

/-! The standard metrics. -/

inductive StandardMetric where
  | files
  | packages
  | classes
  | interfaces
  | abstractClasses
  | methods
  | lines
  | linesOfCode
  | blankLines
  | commentLines
  | commentBlankLines
  | commentedOutCodeLines
  | statements
  | complexity
  /-- Afferent coupling. -/
  | ca
  /-- Efferent coupling. -/
  | ce
  | instability
  | abstractness
  | distance
  | commentLinesDensity
  deriving DecidableEq, Repr

namespace StandardMetric

def all : List StandardMetric :=
  [.files, .packages, .classes, .interfaces, .abstractClasses, .methods, .lines, .linesOfCode,
    .blankLines, .commentLines, .commentBlankLines, .commentedOutCodeLines, .statements,
    .complexity, .ca, .ce, .instability, .abstractness, .distance, .commentLinesDensity]

def name : StandardMetric → String
  | .files => "files"
  | .packages => "packages"
  | .classes => "classes"
  | .interfaces => "interfaces"
  | .abstractClasses => "abstract_classes"
  | .methods => "methods"
  | .lines => "lines"
  | .linesOfCode => "lines_of_code"
  | .blankLines => "blank_lines"
  | .commentLines => "comment_lines"
  | .commentBlankLines => "comment_blank_lines"
  | .commentedOutCodeLines => "commented_out_code_lines"
  | .statements => "statements"
  | .complexity => "complexity"
  | .ca => "ca"
  | .ce => "ce"
  | .instability => "instability"
  | .abstractness => "abstractness"
  | .distance => "distance"
  | .commentLinesDensity => "comment_lines_density"

def formula? : StandardMetric → Option (Measures → Float)
  | .instability => some Formula.instability
  | .abstractness => some Formula.abstractness
  | .distance => some Formula.distance
  | .commentLinesDensity => some Formula.commentLinesDensity
  | _ => none

def aggregation (metric : StandardMetric) : Aggregation :=
  if metric.formula?.isSome then .formula else .sum

def metric (standard : StandardMetric) : Metric where
  name := standard.name
  aggregation := standard.aggregation
  formula? := standard.formula?

def isFormula (standard : StandardMetric) : Bool :=
  standard.aggregation = .formula

def ofName? (name : String) : Option StandardMetric :=
  all.find? fun standard => standard.name = name

theorem mem_all (standard : StandardMetric) : standard ∈ all := by
  cases standard <;> decide

end StandardMetric

end CodeMetrics
