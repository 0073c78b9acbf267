import CodeMetrics.Index.Walk

/-!
Decoration: totals for every entity of a subtree. Going from the leaves up, each entity gets the
sums of its own values and its children's totals, and then the formulas on those sums. The totals
start from the values that were set, so a second decoration gives the same totals.
-/

namespace CodeMetrics

/-- The sum of values from left to right, which starts from negative zero. -/
def sumFrom (values : List Float) : Float :=
  values.foldl (· + ·) (-0.0)

def addTotal (raw : Measures) (children : List Measures) (table : Measures) (metric : Metric) :
    Measures :=
  table.set metric.name
    (raw.value metric.name + sumFrom (children.map fun child => child.value metric.name))

def addFormula (table : Measures) (metric : Metric) : Measures :=
  match metric.formula? with
  | some formula => table.set metric.name (formula table)
  | none => table

/-- The totals of an entity from its own values and its children's totals: first all sums, then all
formulas, both in the order of the metrics. -/
def aggregate (metrics : List Metric) (raw : Measures) (children : List Measures) : Measures :=
  let sums := (metrics.filter fun metric => metric.aggregation = .sum).foldl
    (addTotal raw children) raw
  (metrics.filter fun metric => metric.aggregation = .formula).foldl addFormula sums

namespace EntityIndex

def decorateOne (metrics : List Metric) (index : EntityIndex) (id : EntityId) : EntityIndex :=
  index.modify id fun entity =>
    let totals := aggregate metrics entity.raw ((index.childrenOf id).map Entity.view)
    { entity with decorated? := some totals }

def decorate (index : EntityIndex) (metrics : List Metric) (id : EntityId) : EntityIndex × Nat :=
  let order := index.postOrder id
  (order.foldl (decorateOne metrics) index, order.length)

end EntityIndex

end CodeMetrics
