import CodeMetrics.Index.Walk

/-! Queries for entities. A selection keeps the entities that satisfy all of its queries. -/

namespace CodeMetrics

/-- A condition on an entity of an index. -/
abbrev Query := EntityIndex → Entity → Bool

inductive Comparison where
  | equal
  | less
  | lessOrEqual
  | greater
  | greaterOrEqual
  deriving DecidableEq, Repr

def Comparison.holds : Comparison → Float → Float → Bool
  | .equal, value, bound => value == bound
  | .less, value, bound => value < bound
  | .lessOrEqual, value, bound => value ≤ bound
  | .greater, value, bound => value > bound
  | .greaterOrEqual, value, bound => value ≥ bound

namespace Query

def ofKind (kind : EntityKind) : Query :=
  fun _ entity => entity.kind = kind

def keyStartsWith (start : String) : Query :=
  fun _ entity => start.toList.isPrefixOf entity.key.toList

def below (ancestor : EntityId) : Query :=
  fun index entity => entity.id?.any fun id => index.isBelow id ancestor

def measured (metric : Metric) (comparison : Comparison) (bound : Float) : Query :=
  fun _ entity => comparison.holds (entity.measure metric) bound

def hasChildren : Query :=
  fun _ entity => entity.hasChildren

end Query

def EntityIndex.select (index : EntityIndex) (queries : List Query) : List Entity :=
  index.entities.filter fun entity => queries.all fun query => query index entity

end CodeMetrics
