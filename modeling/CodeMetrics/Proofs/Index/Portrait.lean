import CodeMetrics.Proofs.Index.Preservation
import Mathlib.Logic.Function.Basic

/-!
What an index looks like apart from identifiers: under every key the entity that has it, with the
key of its parent. Two indexes can look the same although their entities came in different orders.
Each change of an index changes what stands under one key.
-/

namespace CodeMetrics

/-- An entity without what an index gives it. -/
def Entity.unlinked (entity : Entity) : Entity :=
  { entity with id? := none, parent? := none, children := [] }

structure Portrait where
  entity : Entity
  parentKey? : Option String

namespace EntityIndex

def keyOf? (index : EntityIndex) (id : EntityId) : Option String :=
  (index.get? id).map Entity.key

def portrait (index : EntityIndex) (entity : Entity) : Portrait where
  entity := entity.unlinked
  parentKey? := entity.parent?.bind index.keyOf?

def portrait? (index : EntityIndex) (key : String) : Option Portrait :=
  (index.find? key).map index.portrait

/-- A well-formed index that looks like the table. -/
structure Depicts (index : EntityIndex) (table : String → Option Portrait) : Prop where
  wellFormed : index.WellFormed
  portrait?_eq : index.portrait? = table

variable {index after : EntityIndex} {id parent : EntityId} {entity changed : Entity} {key : String}
  {table : String → Option Portrait} {picture : Portrait}

theorem keyOf?_of_get? (found : index.get? id = some entity) :
    index.keyOf? id = some entity.key := by
  rw [keyOf?, found, Option.map_some]

theorem find?_of_get? (wf : index.WellFormed) (found : index.get? id = some entity) :
    index.find? entity.key = some entity := by
  rw [find?, wf.keyed.mpr ⟨entity, found, rfl⟩]
  exact found

theorem mem_childrenOf (wf : index.WellFormed) :
    entity ∈ index.childrenOf parent ↔
      ∃ id, index.get? id = some entity ∧ entity.parent? = some parent := by
  constructor
  · intro member
    unfold childrenOf at member
    split at member
    next above foundAbove =>
      obtain ⟨child, listed, found⟩ := List.mem_filterMap.mp member
      obtain ⟨below, foundBelow, link⟩ := wf.linked foundAbove listed
      rw [found] at foundBelow
      cases foundBelow
      exact ⟨child, found, link⟩
    next => cases member
  · rintro ⟨child, found, link⟩
    obtain ⟨above, foundAbove, listed⟩ := wf.parent_live found link
    simp only [childrenOf, foundAbove]
    exact List.mem_filterMap.mpr ⟨child, listed, found⟩

/-! Reading the table. -/

theorem portrait?_of_get? (wf : index.WellFormed) (found : index.get? id = some entity) :
    index.portrait? entity.key = some (index.portrait entity) := by
  rw [portrait?, find?_of_get? wf found, Option.map_some]

theorem portrait?_eq_none (unused : index.idOf? key = none) : index.portrait? key = none := by
  rw [portrait?, find?, unused]
  rfl

namespace Depicts

theorem of_get? (depicts : index.Depicts table) (found : index.get? id = some entity) :
    table entity.key = some (index.portrait entity) := by
  rw [← depicts.portrait?_eq]
  exact portrait?_of_get? depicts.wellFormed found

theorem exists_of_some (depicts : index.Depicts table) (shown : table key = some picture) :
    ∃ id entity, index.idOf? key = some id ∧ index.get? id = some entity ∧ entity.key = key ∧
      index.portrait entity = picture := by
  rw [← depicts.portrait?_eq, portrait?, find?] at shown
  obtain ⟨entity, known, same⟩ := Option.map_eq_some_iff.mp shown
  obtain ⟨id, isKey, found⟩ := Option.bind_eq_some_iff.mp known
  obtain ⟨other, foundOther, hasKey⟩ := depicts.wellFormed.keyed.mp isKey
  rw [found] at foundOther
  cases foundOther
  exact ⟨id, entity, isKey, found, hasKey, same⟩

theorem of_idOf? (depicts : index.Depicts table) (isKey : index.idOf? key = some id) :
    ∃ entity, index.get? id = some entity ∧ entity.key = key ∧
      table key = some (index.portrait entity) := by
  obtain ⟨entity, found, rfl⟩ := depicts.wellFormed.keyed.mp isKey
  exact ⟨entity, found, rfl, depicts.of_get? found⟩

theorem idOf?_eq_none (depicts : index.Depicts table) (free : table key = none) :
    index.idOf? key = none := by
  cases isKey : index.idOf? key with
  | none => rfl
  | some id =>
    obtain ⟨entity, _, _, shown⟩ := depicts.of_idOf? isKey
    rw [free] at shown
    cases shown

/-- An entity has no children when nothing has its key for a parent's key. -/
theorem childless (depicts : index.Depicts table) (found : index.get? id = some entity)
    (unnamed : ∀ other below, table other = some below → below.parentKey? ≠ some entity.key) :
    entity.children = [] := by
  rw [List.eq_nil_iff_forall_not_mem]
  intro child listed
  obtain ⟨below, foundBelow, link⟩ := depicts.wellFormed.linked found listed
  apply unnamed below.key _ (depicts.of_get? foundBelow)
  rw [portrait, link]
  exact keyOf?_of_get? found

/-- The project is the one entity whose portrait names no parent. -/
theorem eq_root_iff (depicts : index.Depicts table) (isKey : index.idOf? key = some id)
    (shown : table key = some picture) : id = root ↔ picture.parentKey? = none := by
  obtain ⟨entity, found, _, same⟩ := depicts.of_idOf? isKey
  rw [shown] at same
  cases same
  constructor
  · rintro rfl
    obtain ⟨project, foundRoot, orphan⟩ := depicts.wellFormed.root_live
    rw [found] at foundRoot
    cases foundRoot
    rw [EntityIndex.portrait, orphan]
    rfl
  · intro orphan
    by_contra notRoot
    obtain ⟨upper, above, isParent, _, foundAbove, _⟩ := depicts.wellFormed.listed found notRoot
    rw [EntityIndex.portrait, isParent] at orphan
    cases orphan.symm.trans (keyOf?_of_get? foundAbove)

end Depicts

theorem depicts_ofProject (project : Entity) :
    (ofProject project).Depicts
      (Function.update (fun _ => none) project.key (some ⟨project.unlinked, none⟩)) := by
  refine ⟨wellFormed_ofProject project, ?_⟩
  rw [Function.eq_update_iff]
  constructor
  · rw [portrait?, find?, idOf?_ofProject, if_pos rfl]
    rfl
  · intro key other
    rw [portrait?_eq_none]
    rw [idOf?_ofProject, if_neg other]

/-! Changing the table. -/

theorem portrait_congr (alike : changed.unlinked = entity.unlinked)
    (sameParent : changed.parent? = entity.parent?)
    (keeps : ∀ parent, entity.parent? = some parent → after.keyOf? parent = index.keyOf? parent) :
    after.portrait changed = index.portrait entity := by
  unfold EntityIndex.portrait
  rw [alike, sameParent]
  cases isParent : entity.parent? with
  | none => rfl
  | some parent => exact congrArg (Portrait.mk _) (keeps parent isParent)

/-- What stands under a key stays when the entity with the key and its parent's key stay. -/
theorem portrait?_congr (wf : index.WellFormed) (sameId : after.idOf? key = index.idOf? key)
    (keeps : ∀ id known, index.get? id = some known → known.key = key →
      ∃ changed, after.get? id = some changed ∧ after.portrait changed = index.portrait known) :
    after.portrait? key = index.portrait? key := by
  cases isKey : index.idOf? key with
  | none => rw [portrait?_eq_none isKey, portrait?_eq_none (sameId.trans isKey)]
  | some id =>
    obtain ⟨known, found, hasKey⟩ := wf.keyed.mp isKey
    obtain ⟨changed, foundChanged, same⟩ := keeps id known found hasKey
    rw [portrait?, portrait?, find?, find?, sameId, isKey, Option.bind_some, Option.bind_some,
      found, foundChanged, Option.map_some, Option.map_some, same]

theorem Inserted.keyOf?_old (inserted : index.Inserted parent entity id after) {other : EntityId}
    (old : other ≠ id) : after.keyOf? other = index.keyOf? other := by
  rw [keyOf?, keyOf?, inserted.lookup_old old, Option.map_map]
  congr 1
  funext known
  exact Inserted.grow_key known

theorem Inserted.portrait?_eq (inserted : index.Inserted parent entity id after)
    (wf : index.WellFormed) {parentKey : String} (isKey : index.keyOf? parent = some parentKey) :
    after.portrait? =
      Function.update index.portrait? entity.key (some ⟨entity.unlinked, some parentKey⟩) := by
  -- Parents are live, so the new identifier is not one of those that portraits go by.
  have older : ∀ {other known}, index.get? other = some known → other ≠ id := fun found =>
    Nat.ne_of_lt (inserted.lt_new found)
  rw [Function.eq_update_iff]
  constructor
  · have found := portrait?_of_get? (inserted.wellFormed wf) inserted.found_new
    obtain ⟨above, foundAbove⟩ := contains_iff.mp inserted.parentLive
    rw [found, EntityIndex.portrait, Option.bind_some,
      inserted.keyOf?_old (older foundAbove), isKey]
    rfl
  · intro key other
    have sameId : after.idOf? key = index.idOf? key := by rw [inserted.keys, if_neg other]
    apply portrait?_congr wf sameId
    intro place known found _
    refine ⟨_, inserted.keeps found, portrait_congr ?_ (Inserted.grow_parent? known) ?_⟩
    · unfold Inserted.grow
      split <;> rfl
    · intro upper isParent
      obtain ⟨above, foundAbove, _⟩ := wf.parent_live found isParent
      exact inserted.keyOf?_old (older foundAbove)

/-- A leaf goes without a trace. -/
theorem Removed.portrait?_eq {removed : List Entity} (gone : index.Removed id entity removed after)
    (wf : index.WellFormed) (childless : entity.children = []) :
    after.portrait? = Function.update index.portrait? entity.key none := by
  have alone : ∀ {other}, index.Within id other ↔ other = id := by
    intro other
    rw [Within.iff_top_or_child wf gone.found, childless]
    simp
  have taken : ∀ {lost}, lost ∈ removed ↔ lost = entity := by
    intro lost
    rw [gone.mem_removed_iff wf]
    constructor
    · rintro ⟨place, inside, found⟩
      rw [alone.mp inside, gone.found] at found
      exact (Option.some.inj found).symm
    · rintro rfl
      exact ⟨id, alone.mpr rfl, gone.found⟩
  rw [Function.eq_update_iff]
  constructor
  · apply portrait?_eq_none
    rw [gone.keys, if_pos ⟨entity, taken.mpr rfl, rfl⟩]
  · intro key other
    have sameId : after.idOf? key = index.idOf? key := by
      rw [gone.keys, if_neg]
      rintro ⟨lost, member, same⟩
      rw [taken.mp member] at same
      exact other same.symm
    apply portrait?_congr wf sameId
    intro place known found hasKey
    have outside : ¬index.Within id place := by
      rw [alone]
      rintro rfl
      rw [gone.found] at found
      cases found
      exact other hasKey.symm
    refine ⟨_, gone.keeps wf found outside, portrait_congr rfl rfl ?_⟩
    intro upper isParent
    -- What stays has its parent still, because nothing was below the leaf.
    have notTop : ¬index.Within id upper := by
      rw [alone]
      rintro rfl
      obtain ⟨above, foundAbove, listed⟩ := wf.parent_live found isParent
      rw [gone.found] at foundAbove
      cases foundAbove
      rw [childless] at listed
      cases listed
    rw [keyOf?, keyOf?, gone.lookup_kept wf notTop, Option.map_map]
    rfl

namespace Depicts

/-- An entity whose key is free is put below another one. -/
theorem insert (depicts : index.Depicts table) {parentKey : String}
    (isParent : index.idOf? parentKey = some parent) (free : table entity.key = none) :
    ∃ id after, index.insert parent entity = .ok (id, after) ∧
      after.idOf? entity.key = some id ∧
      after.Depicts (Function.update table entity.key
        (some ⟨entity.unlinked, some parentKey⟩)) := by
  obtain ⟨above, foundAbove, hasKey, _⟩ := depicts.of_idOf? isParent
  cases result : index.insert parent entity with
  | error error =>
    rcases insert_eq_error_iff.mp ⟨error, result⟩ with taken | missing
    · exact absurd (depicts.idOf?_eq_none free) taken
    · rw [contains_of_get? foundAbove] at missing
      cases missing
  | ok pair =>
    obtain ⟨id, after⟩ := pair
    have inserted := insert_eq_ok result
    refine ⟨id, after, rfl, ?_, inserted.wellFormed depicts.wellFormed, ?_⟩
    · rw [inserted.keys, if_pos rfl]
    · rw [inserted.portrait?_eq depicts.wellFormed (keyOf?_of_get? foundAbove), hasKey,
        depicts.portrait?_eq]

theorem insert_taken (depicts : index.Depicts table) (taken : table entity.key = some picture)
    (parent : EntityId) : index.insert parent entity = .error (.duplicateKey entity.key) := by
  obtain ⟨id, _, isKey, _⟩ := depicts.exists_of_some taken
  rw [EntityIndex.insert, isKey]
  rfl

/-- An entity below another one is taken out, if no other one is below it. -/
theorem remove (depicts : index.Depicts table) (isKey : index.idOf? key = some id)
    (shown : table key = some picture) (hasParent : picture.parentKey? ≠ none)
    (unnamed : ∀ other below, table other = some below → below.parentKey? ≠ some key) :
    ∃ removed after, index.remove id = .ok (removed, after) ∧
      after.Depicts (Function.update table key none) := by
  obtain ⟨entity, found, rfl, _⟩ := depicts.of_idOf? isKey
  cases result : index.remove id with
  | error error =>
    rcases remove_eq_error_iff.mp ⟨error, result⟩ with isRoot | missing
    · exact absurd ((depicts.eq_root_iff isKey shown).mp isRoot) hasParent
    · rw [contains_of_get? found] at missing
      cases missing
  | ok pair =>
    obtain ⟨removed, after⟩ := pair
    obtain ⟨known, gone⟩ := remove_eq_ok result
    have same : known = entity := Option.some.inj (gone.found.symm.trans found)
    subst same
    refine ⟨removed, after, rfl, gone.wellFormed depicts.wellFormed, ?_⟩
    rw [gone.portrait?_eq depicts.wellFormed (depicts.childless found unnamed),
      depicts.portrait?_eq]

/-- An entity changes in itself. -/
theorem update (depicts : index.Depicts table) (isKey : index.idOf? key = some id)
    (shown : table key = some picture) {change : Entity → Entity}
    (keeps : ∀ entity, (change entity).links = entity.links)
    (blind : ∀ entity, (change entity).unlinked = change entity.unlinked) :
    ∃ after, index.update id change = .ok after ∧ after.idOf? key = some id ∧
      after.Depicts (Function.update table key
        (some { picture with entity := change picture.entity })) := by
  obtain ⟨entity, found, rfl, same⟩ := depicts.of_idOf? isKey
  rw [shown] at same
  cases same
  have wf := depicts.wellFormed
  have agree : Agree Entity.links index (index.modify id change) := .modify index id change keeps
  have sameParent : ∀ known, (change known).parent? = known.parent? := fun known =>
    congrArg (fun links => links.2.1) (keeps known)
  have sameKey : ∀ other, (index.modify id change).keyOf? other = index.keyOf? other :=
    (agree.weaken fun links => links.2.2.2).lookup
  have sameId : ∀ other, (index.modify id change).idOf? other = index.idOf? other := fun other => by
    rw [idOf?, keys_modify, idOf?]
  refine ⟨index.modify id change, ?_, (sameId _).trans isKey, wf.of_agree agree, ?_⟩
  · rw [EntityIndex.update, contains_of_get? found, if_pos rfl]
  · rw [← depicts.portrait?_eq, Function.eq_update_iff]
    have lookup := get?_modify index id
    constructor
    · rw [portrait?, find?, sameId, isKey, Option.bind_some, lookup, if_pos rfl, found]
      simp only [Option.map_some, EntityIndex.portrait, blind, sameParent, funext sameKey]
    · intro other different
      apply portrait?_congr wf (sameId other)
      intro place known foundKnown hasKey
      have elsewhere : place ≠ id := by
        rintro rfl
        rw [found] at foundKnown
        cases foundKnown
        exact different hasKey.symm
      refine ⟨known, ?_, portrait_congr rfl rfl fun upper _ => sameKey upper⟩
      rw [lookup, if_neg elsewhere, foundKnown]

end Depicts

end EntityIndex

end CodeMetrics
