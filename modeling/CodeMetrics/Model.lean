import CodeMetrics.Graph.Cycle
import CodeMetrics.Index.Decoration
import CodeMetrics.Index.Query

/-!
The code model: an entity index with a usage graph over its entities. Edges join entities of the
index only, and they go together with them.
-/

namespace CodeMetrics

/-- A project's entities and how they use each other. -/
structure Model where
  index : EntityIndex
  graph : UsageGraph := .empty
  deriving Repr

namespace Model

def ofProject (project : Entity) : Model where
  index := .ofProject project

def ofKey (key : String) : Model :=
  ofProject { kind := .project, key }

def insert (model : Model) (parent : EntityId) (entity : Entity) :
    Except ModelError (EntityId × Model) := do
  let (id, index) ← model.index.insert parent entity
  return (id, { model with index })

def addEdge (model : Model) (edge : Edge) : Except ModelError (Bool × Model) :=
  if !model.index.contains edge.source then .error (.unindexedEndpoint edge edge.source)
  else if !model.index.contains edge.target then .error (.unindexedEndpoint edge edge.target)
  else
    let (isNew, graph) := model.graph.addEdge edge
    .ok (isNew, { model with graph })

/-- Removes an entity with all below it and every edge that touches one of them. The entities are
returned as they stood, each before its children. -/
def remove (model : Model) (id : EntityId) : Except ModelError (List Entity × Model) := do
  let (removed, index) ← model.index.remove id
  let graph := (removed.filterMap Entity.id?).foldl
    (fun graph gone => (graph.removeVertex gone).2) model.graph
  return (removed, { index, graph })

def setMeasure (model : Model) (id : EntityId) (metric : Metric) (value : Float) :
    Except ModelError Model := do
  return { model with index := ← model.index.setMeasure id metric value }

def addMeasure (model : Model) (id : EntityId) (metric : Metric) (delta : Float) :
    Except ModelError Model := do
  return { model with index := ← model.index.addMeasure id metric delta }

def addRemark (model : Model) (id : EntityId) (remark : Remark) : Except ModelError Model := do
  return { model with index := ← model.index.addRemark id remark }

def decorate (model : Model) (metrics : List Metric) : Model :=
  { model with index := (model.index.decorate metrics EntityIndex.root).1 }

def flush (model : Model) : Model where
  index := model.index.flush

end Model

end CodeMetrics
