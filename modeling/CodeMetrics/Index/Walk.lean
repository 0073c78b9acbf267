import CodeMetrics.Index.Basic

/-!
Walks through the entity tree. A path through the tree has no more entities than there are slots, so
that number of steps is enough for every walk.
-/

namespace CodeMetrics.EntityIndex

def childrenOf (index : EntityIndex) (id : EntityId) : List Entity :=
  match index.get? id with
  | some entity => entity.children.filterMap index.get?
  | none => []

/-- The next `steps` identifiers on the way from an entity to the project. -/
def climb (index : EntityIndex) : Nat → EntityId → List EntityId
  | 0, _ => []
  | steps + 1, id =>
    match (index.get? id).bind Entity.parent? with
    | some parent => parent :: climb index steps parent
    | none => []

def ancestors (index : EntityIndex) (id : EntityId) : List EntityId :=
  index.climb index.slots.size id

/-- Whether one of the next `steps` entities on the way to the project is a given one. The way is
left as soon as it is met. -/
def meets (index : EntityIndex) (ancestor : EntityId) : Nat → EntityId → Bool
  | 0, _ => false
  | steps + 1, id =>
    match (index.get? id).bind Entity.parent? with
    | some parent => parent = ancestor || meets index ancestor steps parent
    | none => false

def isBelow (index : EntityIndex) (id ancestor : EntityId) : Bool :=
  index.meets ancestor index.slots.size id

/-- The first `levels` levels of the tree below an entity, each entity before its children. -/
def descend (index : EntityIndex) : Nat → EntityId → List EntityId
  | 0, _ => []
  | levels + 1, id =>
    match index.get? id with
    | some entity => id :: entity.children.flatMap (descend index levels)
    | none => []

def subtree (index : EntityIndex) (id : EntityId) : List EntityId :=
  index.descend index.slots.size id

def descendants (index : EntityIndex) (id : EntityId) : List EntityId :=
  (index.subtree id).drop 1

def ascend (index : EntityIndex) : Nat → EntityId → List EntityId
  | 0, _ => []
  | levels + 1, id =>
    match index.get? id with
    | some entity => entity.children.flatMap (ascend index levels) ++ [id]
    | none => []

def postOrder (index : EntityIndex) (id : EntityId) : List EntityId :=
  index.ascend index.slots.size id

/-- Removes an entity and all below it. They are returned as they stood, each entity before its
children. -/
def remove (index : EntityIndex) (id : EntityId) :
    Except ModelError (List Entity × EntityIndex) :=
  if id = root then .error .rootRemoval
  else match index.get? id with
    | none => .error (.unknownEntity id)
    | some entity =>
      let leaving := index.subtree id
      let removed := leaving.filterMap index.get?
      let cut := match entity.parent? with
        | some parent =>
          index.modify parent fun parent =>
            { parent with children := parent.children.filter (· ≠ id) }
        | none => index
      .ok (removed,
        { slots := leaving.foldl (fun slots gone => slots.setIfInBounds gone none) cut.slots,
          keys := cut.keys.filter fun (key, _) => !removed.any fun gone => gone.key = key,
          size := cut.size - removed.length })

end CodeMetrics.EntityIndex
