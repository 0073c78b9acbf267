import CodeMetrics.Proofs.Index.Tree

/-!
Every change of an index keeps it well-formed. Changes to the values of entities leave all links
alone. An insertion adds a youngest leaf. A removal takes out a whole subtree, so that no link is
left that leads into it.
-/

namespace CodeMetrics

/-- What ties an entity to the others and to the table of keys. -/
def Entity.links (entity : Entity) : Option EntityId × Option EntityId × List EntityId × String :=
  (entity.id?, entity.parent?, entity.children, entity.key)

def Entity.undecorated (entity : Entity) : Entity :=
  { entity with decorated? := none }

namespace EntityIndex

/-- Two indexes with the same entities, as far as a view of entities shows. -/
structure Agree {α : Type} (view : Entity → α) (index after : EntityIndex) : Prop where
  lookup : ∀ id, (after.get? id).map view = (index.get? id).map view
  slots : after.slots.size = index.slots.size
  keys : after.keys = index.keys
  size : after.size = index.size

namespace Agree

variable {α : Type} {view : Entity → α} {index middle after : EntityIndex}

theorem refl (view : Entity → α) (index : EntityIndex) : Agree view index index :=
  ⟨fun _ => rfl, rfl, rfl, rfl⟩

theorem symm (agree : Agree view index after) : Agree view after index :=
  ⟨fun id => (agree.lookup id).symm, agree.slots.symm, agree.keys.symm, agree.size.symm⟩

theorem trans (first : Agree view index middle) (second : Agree view middle after) :
    Agree view index after :=
  ⟨fun id => (second.lookup id).trans (first.lookup id), second.slots.trans first.slots,
    second.keys.trans first.keys, second.size.trans first.size⟩

theorem weaken {β : Type} (agree : Agree view index after) (coarser : α → β) :
    Agree (fun entity => coarser (view entity)) index after := by
  refine ⟨fun id => ?_, agree.slots, agree.keys, agree.size⟩
  have same := congrArg (Option.map coarser) (agree.lookup id)
  simpa only [Option.map_map, Function.comp_def] using same

theorem found (agree : Agree view index after) {id : EntityId} {entity : Entity}
    (known : index.get? id = some entity) :
    ∃ changed, after.get? id = some changed ∧ view changed = view entity := by
  have same := agree.lookup id
  rw [known, Option.map_some] at same
  exact Option.map_eq_some_iff.mp same

theorem contains_eq (agree : Agree view index after) (id : EntityId) :
    after.contains id = index.contains id := by
  have same := congrArg Option.isSome (agree.lookup id)
  simpa only [contains, Option.isSome_map] using same

theorem modify (index : EntityIndex) (id : EntityId) (change : Entity → Entity)
    (keeps : ∀ entity, view (change entity) = view entity) :
    Agree view index (index.modify id change) := by
  refine ⟨fun other => ?_, by simp, by simp, by simp⟩
  rw [get?_modify]
  split
  · simp only [Option.map_map, Function.comp_def, keeps]
  · rfl

end Agree

/-- An index stays well-formed when all its links stay. -/
theorem WellFormed.of_agree {index after : EntityIndex} (wf : index.WellFormed)
    (agree : Agree Entity.links index after) : after.WellFormed := by
  have back : ∀ {id : EntityId} {entity : Entity}, after.get? id = some entity →
      ∃ old, index.get? id = some old ∧ old.links = entity.links := fun found =>
    agree.symm.found found
  have forth : ∀ {id : EntityId} {entity : Entity}, index.get? id = some entity →
      ∃ new, after.get? id = some new ∧ new.links = entity.links := fun found =>
    agree.found found
  simp only [Entity.links, Prod.mk.injEq] at back forth
  constructor
  · obtain ⟨project, found, orphan⟩ := wf.root_live
    obtain ⟨new, foundNew, _, sameParent, _, _⟩ := forth found
    exact ⟨new, foundNew, sameParent.trans orphan⟩
  · intro id entity found
    obtain ⟨old, foundOld, sameId, _⟩ := back found
    exact sameId.symm.trans (wf.id_eq foundOld)
  · intro id entity found notRoot
    obtain ⟨old, foundOld, _, sameParent, _⟩ := back found
    obtain ⟨parent, above, isParent, older, foundAbove, member⟩ := wf.listed foundOld notRoot
    obtain ⟨new, foundNew, _, _, sameChildren, _⟩ := forth foundAbove
    exact ⟨parent, new, sameParent.symm.trans isParent, older, foundNew, sameChildren ▸ member⟩
  · intro id entity child found member
    obtain ⟨old, foundOld, _, _, sameChildren, _⟩ := back found
    obtain ⟨below, foundBelow, link⟩ := wf.linked foundOld (sameChildren ▸ member)
    obtain ⟨new, foundNew, _, sameParent, _, _⟩ := forth foundBelow
    exact ⟨new, foundNew, sameParent.trans link⟩
  · intro id entity found
    obtain ⟨old, foundOld, _, _, sameChildren, _⟩ := back found
    exact sameChildren ▸ wf.sorted foundOld
  · intro key id
    rw [idOf?, agree.keys, ← idOf?, wf.keyed]
    constructor
    · rintro ⟨entity, found, isKey⟩
      obtain ⟨new, foundNew, _, _, _, sameKey⟩ := forth found
      exact ⟨new, foundNew, sameKey.trans isKey⟩
    · rintro ⟨entity, found, isKey⟩
      obtain ⟨old, foundOld, _, _, _, sameKey⟩ := back found
      exact ⟨old, foundOld, sameKey.trans isKey⟩
  · have sameIds : after.liveIds = index.liveIds := by
      ext id
      rw [mem_liveIds, mem_liveIds, agree.contains_eq]
    rw [agree.size, wf.size_eq, sameIds]

theorem wellFormed_ofProject (project : Entity) : (ofProject project).WellFormed := by
  have only : ∀ {id : EntityId} {entity : Entity}, (ofProject project).get? id = some entity →
      id = root ∧ entity = { project with id? := some root, parent? := none, children := [] } := by
    intro id entity found
    rw [get?_ofProject] at found
    split at found
    next same => exact ⟨same, (Option.some.inj found).symm⟩
    next => cases found
  have foundRoot : (ofProject project).get? root =
      some { project with id? := some root, parent? := none, children := [] } := rfl
  constructor
  · exact ⟨_, foundRoot, rfl⟩
  · intro id entity found
    obtain ⟨rfl, rfl⟩ := only found
    rfl
  · intro id entity found notRoot
    exact absurd (only found).1 notRoot
  · intro id entity child found member
    obtain ⟨rfl, rfl⟩ := only found
    cases member
  · intro id entity found
    obtain ⟨rfl, rfl⟩ := only found
    exact List.Pairwise.nil
  · intro key id
    rw [idOf?_ofProject]
    constructor
    · intro isKey
      split at isKey
      next same =>
        cases isKey
        exact ⟨_, foundRoot, same.symm⟩
      next => cases isKey
    · rintro ⟨entity, found, isKey⟩
      obtain ⟨rfl, rfl⟩ := only found
      exact if_pos isKey.symm
  · have ids : (ofProject project).liveIds = {root} := by
      ext id
      rw [mem_liveIds, Finset.mem_singleton, contains_iff]
      exact ⟨fun ⟨_, found⟩ => (only found).1, fun same => same ▸ ⟨_, foundRoot⟩⟩
    rw [ids, Finset.card_singleton]
    rfl

/-! Insertion. -/

namespace Inserted

variable {index after : EntityIndex} {parent id other : EntityId} {entity : Entity}

/-- What an insertion does to the entities that were there: the parent gets a new last child. -/
def grow (parent id other : EntityId) (entity : Entity) : Entity :=
  if other = parent then { entity with children := entity.children ++ [id] } else entity

theorem found_new (inserted : index.Inserted parent entity id after) :
    after.get? id = some { entity with id? := some id, parent? := some parent, children := [] } := by
  rw [inserted.lookup, if_pos rfl]

theorem lookup_old (inserted : index.Inserted parent entity id after) (old : other ≠ id) :
    after.get? other = (index.get? other).map (grow parent id other) := by
  rw [inserted.lookup, if_neg old]
  unfold grow
  by_cases isParent : other = parent
  · simp only [if_pos isParent]
  · simp only [if_neg isParent, Option.map_id']

theorem lt_new {other id : Nat} {known : Entity} (inserted : index.Inserted parent entity id after)
    (found : index.get? other = some known) : other < id := by
  rw [inserted.newest]
  exact lt_size_of_get? found

theorem keeps (inserted : index.Inserted parent entity id after) {known : Entity}
    (found : index.get? other = some known) :
    after.get? other = some (grow parent id other known) := by
  rw [inserted.lookup_old (Nat.ne_of_lt (inserted.lt_new found)), found, Option.map_some]

/-- An entity of the new index is the one put in or one that was there. -/
theorem found_cases (inserted : index.Inserted parent entity id after) {known : Entity}
    (found : after.get? other = some known) :
    (other = id ∧ known = { entity with id? := some id, parent? := some parent, children := [] }) ∨
      other ≠ id ∧ ∃ before, index.get? other = some before ∧
        known = grow parent id other before := by
  by_cases isNew : other = id
  · subst isNew
    rw [inserted.found_new] at found
    exact .inl ⟨rfl, (Option.some.inj found).symm⟩
  · rw [inserted.lookup_old isNew] at found
    obtain ⟨before, foundBefore, same⟩ := Option.map_eq_some_iff.mp found
    exact .inr ⟨isNew, before, foundBefore, same.symm⟩

@[simp] theorem grow_id? (known : Entity) : (grow parent id other known).id? = known.id? := by
  unfold grow
  split <;> rfl

@[simp] theorem grow_parent? (known : Entity) :
    (grow parent id other known).parent? = known.parent? := by
  unfold grow
  split <;> rfl

@[simp] theorem grow_key (known : Entity) : (grow parent id other known).key = known.key := by
  unfold grow
  split <;> rfl

theorem mem_children_grow {known : Entity} {child : EntityId} :
    child ∈ (grow parent id other known).children ↔
      child ∈ known.children ∨ other = parent ∧ child = id := by
  unfold grow
  by_cases isParent : other = parent
  · simp [isParent]
  · simp [isParent]

theorem liveIds_eq (inserted : index.Inserted parent entity id after) :
    after.liveIds = Insert.insert id index.liveIds := by
  ext other
  rw [Finset.mem_insert, mem_liveIds, mem_liveIds]
  by_cases isNew : other = id
  · subst isNew
    simp only [true_or, iff_true]
    exact contains_of_get? inserted.found_new
  · simp only [isNew, false_or, contains, inserted.lookup_old isNew, Option.isSome_map]

/-- The new child is younger than all that were listed before. -/
theorem sorted_grow (inserted : index.Inserted parent entity id after) (wf : index.WellFormed)
    {known : Entity} (found : index.get? other = some known) :
    (grow parent id other known).children.Pairwise (· < ·) := by
  unfold grow
  split
  · refine List.pairwise_append.mpr ⟨wf.sorted found, List.pairwise_singleton _ _, ?_⟩
    intro child member last isLast
    obtain ⟨below, foundBelow, _⟩ := wf.linked found member
    rw [List.mem_singleton.mp isLast]
    exact inserted.lt_new foundBelow
  · exact wf.sorted found

theorem not_live_new (inserted : index.Inserted parent entity id after) :
    index.get? id = none := by
  cases found : index.get? id with
  | none => rfl
  | some known => exact absurd (inserted.lt_new found) (Nat.lt_irrefl _)

theorem keyed (inserted : index.Inserted parent entity id after) (wf : index.WellFormed)
    {key : String} :
    after.idOf? key = some other ↔ ∃ known, after.get? other = some known ∧ known.key = key := by
  rw [inserted.keys]
  constructor
  · intro isKey
    split at isKey
    next same =>
      cases isKey
      exact ⟨_, inserted.found_new, same.symm⟩
    next =>
      obtain ⟨before, found, same⟩ := wf.keyed.mp isKey
      exact ⟨_, inserted.keeps found, by simpa using same⟩
  · rintro ⟨known, found, same⟩
    rcases inserted.found_cases found with ⟨rfl, rfl⟩ | ⟨_, before, foundBefore, rfl⟩
    · exact if_pos same.symm
    · have isKey : index.idOf? key = some other :=
        wf.keyed.mpr ⟨before, foundBefore, by simpa using same⟩
      have differs : key ≠ entity.key := by
        rintro rfl
        rw [inserted.keyFree] at isKey
        cases isKey
      rw [if_neg differs, isKey]

theorem wellFormed (inserted : index.Inserted parent entity id after) (wf : index.WellFormed) :
    after.WellFormed := by
  constructor
  · obtain ⟨project, found, orphan⟩ := wf.root_live
    exact ⟨_, inserted.keeps found, by simpa using orphan⟩
  · intro other known found
    rcases inserted.found_cases found with ⟨rfl, rfl⟩ | ⟨_, before, foundBefore, rfl⟩
    · rfl
    · simpa using wf.id_eq foundBefore
  · intro other known found notRoot
    rcases inserted.found_cases found with ⟨rfl, rfl⟩ | ⟨_, before, foundBefore, rfl⟩
    · obtain ⟨above, foundParent⟩ := contains_iff.mp inserted.parentLive
      exact ⟨parent, _, rfl, inserted.lt_new foundParent, inserted.keeps foundParent,
        mem_children_grow.mpr (.inr ⟨rfl, rfl⟩)⟩
    · obtain ⟨upper, owner, isParent, older, foundOwner, member⟩ := wf.listed foundBefore notRoot
      exact ⟨upper, _, by simpa using isParent, older, inserted.keeps foundOwner,
        mem_children_grow.mpr (.inl member)⟩
  · intro other known child found member
    rcases inserted.found_cases found with ⟨rfl, rfl⟩ | ⟨_, before, foundBefore, rfl⟩
    · cases member
    · rcases mem_children_grow.mp member with old | ⟨rfl, rfl⟩
      · obtain ⟨below, foundBelow, link⟩ := wf.linked foundBefore old
        exact ⟨_, inserted.keeps foundBelow, by simpa using link⟩
      · exact ⟨_, inserted.found_new, rfl⟩
  · intro other known found
    rcases inserted.found_cases found with ⟨rfl, rfl⟩ | ⟨_, before, foundBefore, rfl⟩
    · exact List.Pairwise.nil
    · exact inserted.sorted_grow wf foundBefore
  · exact inserted.keyed wf
  · have fresh : id ∉ index.liveIds := by
      rw [mem_liveIds, contains_iff, inserted.not_live_new]
      simp
    rw [inserted.liveIds_eq, Finset.card_insert_of_notMem fresh, inserted.size, wf.size_eq]

end Inserted

/-! Removal. -/

namespace Removed

variable {index after : EntityIndex} {id other : EntityId} {entity : Entity}
  {removed : List Entity}

def prune (id : EntityId) (entity : Entity) : Entity :=
  { entity with children := entity.children.filter (· ≠ id) }

theorem mem_children_prune {known : Entity} {child : EntityId} :
    child ∈ (prune id known).children ↔ child ∈ known.children ∧ child ≠ id := by
  simp [prune]

theorem lookup_gone (gone : index.Removed id entity removed after) (wf : index.WellFormed)
    (inside : index.Within id other) : after.get? other = none := by
  rw [gone.lookup, if_pos ((mem_subtree_iff wf).mpr inside)]

/-- Outside of the subtree nothing changes, except that the parent no longer lists its top. -/
theorem lookup_kept (gone : index.Removed id entity removed after) (wf : index.WellFormed)
    (outside : ¬index.Within id other) :
    after.get? other = (index.get? other).map (prune id) := by
  rw [gone.lookup, if_neg fun member => outside ((mem_subtree_iff wf).mp member)]
  split
  next => rfl
  next notParent =>
    cases found : index.get? other with
    | none => rfl
    | some known =>
      have unlisted : id ∉ known.children := by
        intro member
        obtain ⟨below, foundBelow, link⟩ := wf.linked found member
        rw [gone.found] at foundBelow
        cases foundBelow
        exact notParent link
      have same : known.children.filter (· ≠ id) = known.children := by
        rw [List.filter_eq_self]
        intro child member
        exact decide_eq_true fun isTop => unlisted (isTop ▸ member)
      rw [Option.map_some, prune, same]

theorem keeps (gone : index.Removed id entity removed after) (wf : index.WellFormed)
    {known : Entity} (found : index.get? other = some known) (outside : ¬index.Within id other) :
    after.get? other = some (prune id known) := by
  rw [gone.lookup_kept wf outside, found, Option.map_some]

theorem found_old (gone : index.Removed id entity removed after) (wf : index.WellFormed)
    {known : Entity} (found : after.get? other = some known) :
    ¬index.Within id other ∧
      ∃ before, index.get? other = some before ∧ known = prune id before := by
  have outside : ¬index.Within id other := by
    intro inside
    rw [gone.lookup_gone wf inside] at found
    cases found
  rw [gone.lookup_kept wf outside] at found
  obtain ⟨before, foundBefore, same⟩ := Option.map_eq_some_iff.mp found
  exact ⟨outside, before, foundBefore, same.symm⟩

theorem mem_removed_iff (gone : index.Removed id entity removed after) (wf : index.WellFormed)
    {known : Entity} :
    known ∈ removed ↔ ∃ other, index.Within id other ∧ index.get? other = some known := by
  rw [gone.returned, List.mem_filterMap]
  simp only [mem_subtree_iff wf]

theorem length_removed (gone : index.Removed id entity removed after) (wf : index.WellFormed) :
    removed.length = (index.subtree id).length := by
  rw [gone.returned, List.filterMap_length_eq_length]
  intro other member
  exact Option.isSome_iff_exists.mpr (((mem_subtree_iff wf).mp member).live wf)

theorem ids_removed (gone : index.Removed id entity removed after) (wf : index.WellFormed) :
    removed.filterMap Entity.id? = index.subtree id := by
  have own : ∀ other ∈ index.subtree id, (index.get? other).bind Entity.id? = some other := by
    intro other member
    obtain ⟨known, found⟩ := ((mem_subtree_iff wf).mp member).live wf
    rw [found, Option.bind_some]
    exact wf.id_eq found
  rw [gone.returned, List.filterMap_filterMap, List.filterMap_congr own, List.filterMap_some]

theorem liveIds_eq (gone : index.Removed id entity removed after) (wf : index.WellFormed) :
    after.liveIds = index.liveIds \ (index.subtree id).toFinset := by
  ext other
  rw [Finset.mem_sdiff, List.mem_toFinset, mem_liveIds, mem_liveIds, mem_subtree_iff wf]
  by_cases inside : index.Within id other
  · simp [contains, gone.lookup_gone wf inside, inside]
  · simp [contains, gone.lookup_kept wf inside, inside]

/-- What hangs below an entity that stays, stays too, except for the top of the subtree. -/
theorem not_within_child (wf : index.WellFormed) {known : Entity} {child : EntityId}
    (outside : ¬index.Within id other) (found : index.get? other = some known)
    (listed : child ∈ known.children) (notTop : child ≠ id) : ¬index.Within id child := by
  intro inside
  cases inside with
  | self => exact notTop rfl
  | child above foundAbove listedAbove =>
    have same := wf.parent_unique foundAbove listedAbove found listed
    exact outside (same ▸ above)

theorem keyed (gone : index.Removed id entity removed after) (wf : index.WellFormed)
    {key : String} :
    after.idOf? key = some other ↔ ∃ known, after.get? other = some known ∧ known.key = key := by
  rw [gone.keys]
  constructor
  · intro isKey
    split at isKey
    next => cases isKey
    next unused =>
      obtain ⟨known, found, same⟩ := wf.keyed.mp isKey
      have outside : ¬index.Within id other := fun inside =>
        unused ⟨known, (gone.mem_removed_iff wf).mpr ⟨other, inside, found⟩, same⟩
      exact ⟨_, gone.keeps wf found outside, same⟩
  · rintro ⟨known, found, isKey⟩
    obtain ⟨outside, before, foundBefore, rfl⟩ := gone.found_old wf found
    have unused : ¬∃ lost ∈ removed, lost.key = key := by
      rintro ⟨lost, member, same⟩
      obtain ⟨place, inside, foundLost⟩ := (gone.mem_removed_iff wf).mp member
      have samePlace := wf.key_unique foundLost foundBefore (same.trans isKey.symm)
      exact outside (samePlace ▸ inside)
    rw [if_neg unused]
    exact wf.keyed.mpr ⟨before, foundBefore, isKey⟩

theorem wellFormed (gone : index.Removed id entity removed after) (wf : index.WellFormed) :
    after.WellFormed := by
  have top : index.Within id id := .self gone.found
  constructor
  · obtain ⟨project, found, orphan⟩ := wf.root_live
    have outside : ¬index.Within id root := fun inside =>
      gone.notRoot (Nat.le_zero.mp (inside.le wf))
    exact ⟨_, gone.keeps wf found outside, orphan⟩
  · intro other known found
    obtain ⟨_, before, foundBefore, rfl⟩ := gone.found_old wf found
    change before.id? = some other
    exact wf.id_eq foundBefore
  · intro other known found notRoot
    obtain ⟨outside, before, foundBefore, rfl⟩ := gone.found_old wf found
    obtain ⟨upper, owner, isParent, older, foundOwner, member⟩ := wf.listed foundBefore notRoot
    have outsideOwner : ¬index.Within id upper := fun inside =>
      outside (.child inside foundOwner member)
    have notTop : other ≠ id := fun same => outside (same ▸ top)
    exact ⟨upper, _, isParent, older, gone.keeps wf foundOwner outsideOwner,
      mem_children_prune.mpr ⟨member, notTop⟩⟩
  · intro other known child found member
    obtain ⟨outside, before, foundBefore, rfl⟩ := gone.found_old wf found
    obtain ⟨listed, notTop⟩ := mem_children_prune.mp member
    obtain ⟨below, foundBelow, link⟩ := wf.linked foundBefore listed
    have outsideBelow := not_within_child wf outside foundBefore listed notTop
    exact ⟨_, gone.keeps wf foundBelow outsideBelow, link⟩
  · intro other known found
    obtain ⟨_, before, foundBefore, rfl⟩ := gone.found_old wf found
    exact (wf.sorted foundBefore).filter _
  · exact gone.keyed wf
  · have subset : (index.subtree id).toFinset ⊆ index.liveIds := by
      intro other member
      rw [List.mem_toFinset, mem_subtree_iff wf] at member
      exact mem_liveIds.mpr (contains_iff.mpr (member.live wf))
    rw [gone.liveIds_eq wf, Finset.card_sdiff_of_subset subset,
      List.toFinset_card_of_nodup (subtree_nodup wf id), gone.size, gone.length_removed wf,
      wf.size_eq]

end Removed

theorem wellFormed_flush (index : EntityIndex) : index.flush.WellFormed :=
  wellFormed_ofProject _

/-! Changes of values. -/

/-- Decorating entities changes nothing but what they show. -/
theorem agree_foldl_decorateOne (metrics : List Metric) (order : List EntityId)
    (index : EntityIndex) :
    Agree Entity.undecorated index (order.foldl (decorateOne metrics) index) := by
  induction order generalizing index with
  | nil => exact Agree.refl _ index
  | cons first rest ih =>
    have once : Agree Entity.undecorated index (decorateOne metrics index first) :=
      Agree.modify index first _ fun _ => rfl
    exact once.trans (ih _)

theorem agree_decorate (metrics : List Metric) (index : EntityIndex) (id : EntityId) :
    Agree Entity.undecorated index (index.decorate metrics id).1 :=
  agree_foldl_decorateOne metrics (index.postOrder id) index

theorem wellFormed_decorate (metrics : List Metric) {index : EntityIndex} (wf : index.WellFormed)
    (id : EntityId) : (index.decorate metrics id).1.WellFormed :=
  wf.of_agree ((agree_decorate metrics index id).weaken Entity.links)

theorem wellFormed_update {index after : EntityIndex} {id : EntityId} {change : Entity → Entity}
    (wf : index.WellFormed) (done : index.update id change = .ok after)
    (keeps : ∀ entity, (change entity).links = entity.links) : after.WellFormed := by
  obtain ⟨_, rfl⟩ := update_eq_ok done
  exact wf.of_agree (Agree.modify index id change keeps)

end EntityIndex

end CodeMetrics
