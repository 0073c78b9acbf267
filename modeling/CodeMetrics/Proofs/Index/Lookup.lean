import CodeMetrics.Index.Decoration
import Mathlib.Data.Finset.Card

/-!
What each change of an entity index does to its slots and to its table of keys. Later modules work
with these equations only and never open the changes again.
-/

namespace CodeMetrics.EntityIndex

theorem lt_size_of_get? {index : EntityIndex} {id : Nat} {entity : Entity}
    (found : index.get? id = some entity) : id < index.slots.size := by
  unfold get? at found
  by_contra outside
  rw [Array.getElem?_eq_none (Nat.le_of_not_lt outside)] at found
  cases found

theorem contains_iff {index : EntityIndex} {id : EntityId} :
    index.contains id = true ↔ ∃ entity, index.get? id = some entity :=
  Option.isSome_iff_exists

theorem contains_of_get? {index : EntityIndex} {id : EntityId} {entity : Entity}
    (found : index.get? id = some entity) : index.contains id = true :=
  contains_iff.mpr ⟨entity, found⟩

theorem slots_toList (index : EntityIndex) :
    index.slots.toList = (List.range index.slots.size).map index.get? := by
  apply List.ext_getElem
  · simp
  · intro place inside _
    have bound : place < index.slots.size := by simpa using inside
    simp [get?, bound]

def liveIds (index : EntityIndex) : Finset EntityId :=
  (Finset.range index.slots.size).filter fun id => index.contains id = true

theorem mem_liveIds {index : EntityIndex} {id : EntityId} :
    id ∈ index.liveIds ↔ index.contains id = true := by
  simp only [liveIds, Finset.mem_filter, Finset.mem_range, and_iff_right_iff_imp]
  intro live
  obtain ⟨entity, found⟩ := contains_iff.mp live
  exact lt_size_of_get? found

/-! Changing one entity in its slot. -/

theorem get?_modify (index : EntityIndex) (id other : EntityId) (change : Entity → Entity) :
    (index.modify id change).get? other =
      if other = id then (index.get? other).map change else index.get? other := by
  unfold modify
  cases found : index.get? id with
  | none =>
    by_cases same : other = id
    · subst other
      simp only [found, if_true, Option.map_none]
    · simp only [if_neg same]
  | some entity =>
    have bound := lt_size_of_get? found
    by_cases same : other = id
    · subst other
      simp only [if_true, found, Option.map_some]
      simp only [get?, Array.getElem?_setIfInBounds_self_of_lt bound, Option.join_some]
    · simp only [if_neg same]
      simp only [get?, Array.getElem?_setIfInBounds_ne (Ne.symm same)]

@[simp] theorem keys_modify (index : EntityIndex) (id : EntityId) (change : Entity → Entity) :
    (index.modify id change).keys = index.keys := by
  unfold modify
  split <;> rfl

@[simp] theorem size_modify (index : EntityIndex) (id : EntityId) (change : Entity → Entity) :
    (index.modify id change).size = index.size := by
  unfold modify
  split <;> rfl

@[simp] theorem slots_size_modify (index : EntityIndex) (id : EntityId)
    (change : Entity → Entity) :
    (index.modify id change).slots.size = index.slots.size := by
  unfold modify
  split
  · exact Array.size_setIfInBounds
  · rfl

theorem update_eq_ok {index after : EntityIndex} {id : EntityId} {change : Entity → Entity}
    (done : index.update id change = .ok after) :
    index.contains id = true ∧ after = index.modify id change := by
  unfold update at done
  split at done
  next live => exact ⟨live, (Except.ok.inj done).symm⟩
  next => cases done

theorem update_eq_error_iff {index : EntityIndex} {id : EntityId} {change : Entity → Entity} :
    (∃ error, index.update id change = .error error) ↔ index.contains id = false := by
  unfold update
  cases live : index.contains id <;> simp

/-! The index of a bare project. -/

theorem get?_ofProject (project : Entity) (id : EntityId) :
    (ofProject project).get? id =
      if id = root then some { project with id? := some root, parent? := none, children := [] }
      else none := by
  by_cases same : id = root
  · subst id
    rfl
  · obtain ⟨below, rfl⟩ : ∃ below, id = below + 1 := Nat.exists_eq_succ_of_ne_zero same
    rfl

theorem idOf?_ofProject (project : Entity) (key : String) :
    (ofProject project).idOf? key = if key = project.key then some root else none := by
  by_cases same : key = project.key
  · simp [ofProject, idOf?, same]
  · have differs : (key == project.key) = false := beq_eq_false_iff_ne.mpr same
    simp [ofProject, idOf?, List.lookup_cons, same, differs]

/-! Putting an entity in. -/

/-- What a successful insertion comes to: a new last slot, a new key, and one more child of the
parent. -/
structure Inserted (index : EntityIndex) (parent : EntityId) (entity : Entity) (id : EntityId)
    (after : EntityIndex) : Prop where
  keyFree : index.idOf? entity.key = none
  parentLive : index.contains parent = true
  newest : id = index.slots.size
  slots : after.slots.size = index.slots.size + 1
  size : after.size = index.size + 1
  lookup : ∀ other, after.get? other =
    if other = id then some { entity with id? := some id, parent? := some parent, children := [] }
    else if other = parent then
      (index.get? other).map fun above => { above with children := above.children ++ [id] }
    else index.get? other
  keys : ∀ key, after.idOf? key = if key = entity.key then some id else index.idOf? key

theorem get?_push (slots : Array (Option Entity)) (keys : List (String × EntityId)) (size : Nat)
    (entity : Entity) (other : EntityId) :
    (EntityIndex.mk (slots.push (some entity)) keys size).get? other =
      if other = slots.size then some entity else (slots[other]?).join := by
  unfold get?
  rw [Array.getElem?_push]
  split <;> rfl

theorem insert_eq_ok {index after : EntityIndex} {parent id : EntityId} {entity : Entity}
    (done : index.insert parent entity = .ok (id, after)) :
    index.Inserted parent entity id after := by
  unfold insert at done
  split at done
  next => cases done
  next taken =>
    have keyFree : index.idOf? entity.key = none := by
      simpa only [Bool.not_eq_true, Option.isSome_eq_false_iff, Option.isNone_iff_eq_none]
        using taken
    split at done
    next parentLive =>
      cases done
      obtain ⟨above, found⟩ := contains_iff.mp parentLive
      have older : parent ≠ index.slots.size := Nat.ne_of_lt (lt_size_of_get? found)
      refine ⟨keyFree, parentLive, rfl, ?_, ?_, ?_, ?_⟩
      · simp only [slots_size_modify, Array.size_push]
      · simp only [size_modify]
      · intro other
        simp only [get?_modify, get?_push]
        by_cases isNew : other = index.slots.size
        · subst isNew
          simp only [if_true, if_neg (Ne.symm older)]
        · simp only [if_neg isNew]
          rfl
      · intro key
        simp only [idOf?, keys_modify, List.lookup_cons]
        by_cases same : key = entity.key
        · simp [same]
        · simp [same, beq_eq_false_iff_ne.mpr same]
    next => cases done

theorem insert_eq_error_iff {index : EntityIndex} {parent : EntityId} {entity : Entity} :
    (∃ error, index.insert parent entity = .error error) ↔
      index.idOf? entity.key ≠ none ∨ index.contains parent = false := by
  unfold insert
  cases taken : index.idOf? entity.key with
  | some id => simp
  | none => cases live : index.contains parent <;> simp

/-! Taking entities out. -/

theorem get?_vacated (ids : List EntityId) (slots : Array (Option Entity))
    (keys : List (String × EntityId)) (size : Nat) (other : EntityId) :
    (EntityIndex.mk (ids.foldl (fun slots gone => slots.setIfInBounds gone none) slots)
      keys size).get? other = if other ∈ ids then none else (slots[other]?).join := by
  induction ids generalizing slots with
  | nil => simp only [List.foldl_nil, List.not_mem_nil, if_false, get?]
  | cons gone rest ih =>
    rw [List.foldl_cons, ih]
    by_cases later : other ∈ rest
    · simp only [if_pos later, if_pos (List.mem_cons_of_mem _ later)]
    · by_cases same : other = gone
      · subst same
        simp only [if_neg later, List.mem_cons_self, if_true, Array.getElem?_setIfInBounds_self]
        split <;> rfl
      · have absent : other ∉ gone :: rest := by simp [same, later]
        simp only [if_neg later, if_neg absent, Array.getElem?_setIfInBounds_ne (Ne.symm same)]

theorem size_vacated (ids : List EntityId) (slots : Array (Option Entity)) :
    (ids.foldl (fun slots gone => slots.setIfInBounds gone none) slots).size = slots.size := by
  induction ids generalizing slots with
  | nil => rfl
  | cons gone rest ih => rw [List.foldl_cons, ih, Array.size_setIfInBounds]

theorem lookup_filter_names (keep : String → Bool) (keys : List (String × EntityId)) (key : String) :
    (keys.filter fun entry => keep entry.1).lookup key =
      if keep key then keys.lookup key else none := by
  induction keys with
  | nil => simp
  | cons entry rest ih =>
    obtain ⟨name, id⟩ := entry
    by_cases same : key = name
    · subst same
      cases kept : keep key
      · simpa [List.filter_cons, kept] using ih
      · simp [kept]
    · have differs : (key == name) = false := beq_eq_false_iff_ne.mpr same
      cases kept : keep name
      · simpa [List.filter_cons, List.lookup_cons, kept, differs] using ih
      · simpa [List.filter_cons, List.lookup_cons, kept, differs] using ih

/-- What a successful removal comes to: the slots of the whole subtree are vacated, their keys go,
and the parent no longer lists the entity. -/
structure Removed (index : EntityIndex) (id : EntityId) (entity : Entity) (removed : List Entity)
    (after : EntityIndex) : Prop where
  notRoot : id ≠ root
  found : index.get? id = some entity
  returned : removed = (index.subtree id).filterMap index.get?
  slots : after.slots.size = index.slots.size
  size : after.size = index.size - removed.length
  lookup : ∀ other, after.get? other =
    if other ∈ index.subtree id then none
    else if entity.parent? = some other then
      (index.get? other).map fun above =>
        { above with children := above.children.filter (· ≠ id) }
    else index.get? other
  keys : ∀ key, after.idOf? key =
    if ∃ gone ∈ removed, gone.key = key then none else index.idOf? key

def detach (index : EntityIndex) (id : EntityId) (entity : Entity) : EntityIndex :=
  match entity.parent? with
  | some parent =>
    index.modify parent fun above => { above with children := above.children.filter (· ≠ id) }
  | none => index

theorem get?_detach (index : EntityIndex) (id : EntityId) (entity : Entity) (other : EntityId) :
    (index.detach id entity).get? other =
      if entity.parent? = some other then
        (index.get? other).map fun above =>
          { above with children := above.children.filter (· ≠ id) }
      else index.get? other := by
  unfold detach
  cases entity.parent? with
  | none => simp
  | some parent => simp only [get?_modify, Option.some.injEq, eq_comm]

theorem frame_detach (index : EntityIndex) (id : EntityId) (entity : Entity) :
    (index.detach id entity).keys = index.keys ∧ (index.detach id entity).size = index.size ∧
      (index.detach id entity).slots.size = index.slots.size := by
  unfold detach
  cases entity.parent? <;> simp

theorem remove_found {index : EntityIndex} {id : EntityId} {entity : Entity}
    (notRoot : id ≠ root) (found : index.get? id = some entity) :
    let leaving := index.subtree id
    let removed := leaving.filterMap index.get?
    index.remove id = .ok (removed,
      { slots := leaving.foldl (fun slots gone => slots.setIfInBounds gone none)
          (index.detach id entity).slots,
        keys := (index.detach id entity).keys.filter fun entry =>
          !removed.any fun gone => gone.key = entry.1,
        size := (index.detach id entity).size - removed.length }) := by
  simp only [remove, if_neg notRoot, found]
  rfl

theorem remove_eq_error_iff {index : EntityIndex} {id : EntityId} :
    (∃ error, index.remove id = .error error) ↔ id = root ∨ index.contains id = false := by
  unfold remove
  by_cases isRoot : id = root
  · simp [isRoot]
  · cases found : index.get? id <;> simp [isRoot, contains, found]

theorem remove_eq_ok {index after : EntityIndex} {id : EntityId} {removed : List Entity}
    (done : index.remove id = .ok (removed, after)) :
    ∃ entity, index.Removed id entity removed after := by
  have accepted : ¬(id = root ∨ index.contains id = false) := by
    rw [← remove_eq_error_iff, done]
    simp
  have notRoot : id ≠ root := fun same => accepted (.inl same)
  obtain ⟨entity, found⟩ : ∃ entity, index.get? id = some entity := by
    rw [← contains_iff, ← Bool.not_eq_false]
    exact fun missing => accepted (.inr missing)
  obtain ⟨sameKeys, sameSize, sameSlots⟩ := index.frame_detach id entity
  rw [remove_found notRoot found] at done
  cases done
  refine ⟨entity, notRoot, found, rfl, ?_, ?_, ?_, ?_⟩
  · rw [size_vacated, sameSlots]
  · rw [sameSize]
  · intro other
    rw [get?_vacated, ← get?, get?_detach]
  · intro key
    have filtered := lookup_filter_names
      (fun name => !((index.subtree id).filterMap index.get?).any fun gone => gone.key = name)
      index.keys key
    rw [idOf?, sameKeys, filtered, idOf?]
    simp only [Bool.not_eq_true', List.any_eq_false, decide_eq_true_eq]
    by_cases gone : ∃ gone ∈ (index.subtree id).filterMap index.get?, gone.key = key
    · obtain ⟨entity, member, same⟩ := gone
      rw [if_neg fun kept => kept entity member same, if_pos ⟨entity, member, same⟩]
    · rw [if_pos fun entity member same => gone ⟨entity, member, same⟩, if_neg gone]

end CodeMetrics.EntityIndex
