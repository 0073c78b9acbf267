import CodeMetrics.Entity
import CodeMetrics.Graph.Basic

/-!
The entity index: a tree of entities with unique keys. Entities are addressed by identifiers, which
are given out in increasing order and go out of use when their entity is removed.
A change that does not fit is refused with an error.
-/

namespace CodeMetrics

inductive ModelError where
  | duplicateKey (key : String)
  | unknownParent (key : String) (parent : EntityId)
  | unknownEntity (id : EntityId)
  | unindexedEndpoint (edge : Edge) (missing : EntityId)
  | rootRemoval
  deriving DecidableEq, Repr

def ModelError.message : ModelError → String
  | .duplicateKey key => "an entity with key '" ++ key ++ "' is already indexed"
  | .unknownParent key parent =>
    "parent entity " ++ parent.display ++ " of '" ++ key ++ "' is not indexed"
  | .unknownEntity id => "entity " ++ id.display ++ " is not indexed"
  | .unindexedEndpoint edge missing =>
    "cannot add " ++ edge.usage.name ++ " edge " ++ edge.source.display ++ " -> " ++
      edge.target.display ++ ": endpoint " ++ missing.display ++ " is not indexed"
  | .rootRemoval => "the project root cannot be removed"

/-- The entities of a project, each in the slot of its identifier, and the table of their keys. -/
structure EntityIndex where
  slots : Array (Option Entity)
  keys : List (String × EntityId)
  size : Nat
  deriving Repr

namespace EntityIndex

def root : EntityId := 0

def ofProject (project : Entity) : EntityIndex where
  slots := #[some { project with id? := some root, parent? := none, children := [] }]
  keys := [(project.key, root)]
  size := 1

def get? (index : EntityIndex) (id : EntityId) : Option Entity :=
  (index.slots[id]?).join

def contains (index : EntityIndex) (id : EntityId) : Bool :=
  (index.get? id).isSome

def idOf? (index : EntityIndex) (key : String) : Option EntityId :=
  index.keys.lookup key

def find? (index : EntityIndex) (key : String) : Option Entity :=
  (index.idOf? key).bind index.get?

def entities (index : EntityIndex) : List Entity :=
  index.slots.toList.filterMap id

def modify (index : EntityIndex) (id : EntityId) (change : Entity → Entity) : EntityIndex :=
  match index.get? id with
  | some entity => { index with slots := index.slots.setIfInBounds id (some (change entity)) }
  | none => index

def update (index : EntityIndex) (id : EntityId) (change : Entity → Entity) :
    Except ModelError EntityIndex :=
  if index.contains id then .ok (index.modify id change) else .error (.unknownEntity id)

/-- Puts a copy of an entity below a parent, as its last child and without children, and gives it a
new identifier. Its key has to be free. -/
def insert (index : EntityIndex) (parent : EntityId) (entity : Entity) :
    Except ModelError (EntityId × EntityIndex) :=
  if (index.idOf? entity.key).isSome then .error (.duplicateKey entity.key)
  else if index.contains parent then
    let id := index.slots.size
    let entity := { entity with id? := some id, parent? := some parent, children := [] }
    let grown : EntityIndex :=
      { slots := index.slots.push (some entity), keys := (entity.key, id) :: index.keys,
        size := index.size + 1 }
    .ok (id, grown.modify parent fun parent => { parent with children := parent.children ++ [id] })
  else .error (.unknownParent entity.key parent)

def setMeasure (index : EntityIndex) (id : EntityId) (metric : Metric) (value : Float) :
    Except ModelError EntityIndex :=
  index.update id fun entity => entity.setMeasure metric value

def addMeasure (index : EntityIndex) (id : EntityId) (metric : Metric) (delta : Float) :
    Except ModelError EntityIndex :=
  index.update id fun entity => entity.addMeasure metric delta

def addRemark (index : EntityIndex) (id : EntityId) (remark : Remark) :
    Except ModelError EntityIndex :=
  index.update id fun entity => entity.addRemark remark

def project (index : EntityIndex) : Entity :=
  (index.get? root).getD { kind := .project, key := "" }

/-- Drops everything but the project's kind, key and name. Identifiers are given out anew. -/
def flush (index : EntityIndex) : EntityIndex :=
  let project := index.project
  ofProject { kind := project.kind, key := project.key, name := project.name }

end EntityIndex

end CodeMetrics
