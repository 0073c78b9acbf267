import CodeMetrics.Proofs.Index.Preservation

/-!
Runs: any calls in any order, from the index of a bare project. Every index that a run leads to is
one strict tree with a matching table of keys, whatever the calls were given and whichever of them
were refused.
-/

namespace CodeMetrics

inductive IndexCall where
  | insert (parent : EntityId) (entity : Entity)
  | remove (id : EntityId)
  | setMeasure (id : EntityId) (metric : Metric) (value : Float)
  | addMeasure (id : EntityId) (metric : Metric) (delta : Float)
  | addRemark (id : EntityId) (remark : Remark)
  | decorate (metrics : List Metric) (id : EntityId)
  | flush

namespace EntityIndex

def apply (index : EntityIndex) : IndexCall → Except ModelError EntityIndex
  | .insert parent entity => (index.insert parent entity).map Prod.snd
  | .remove id => (index.remove id).map Prod.snd
  | .setMeasure id metric value => index.setMeasure id metric value
  | .addMeasure id metric delta => index.addMeasure id metric delta
  | .addRemark id remark => index.addRemark id remark
  | .decorate metrics id => .ok (index.decorate metrics id).1
  | .flush => .ok index.flush

/-- The index after a call; a call that is refused leaves it as it was. -/
def step (index : EntityIndex) (call : IndexCall) : EntityIndex :=
  match index.apply call with
  | .ok after => after
  | .error _ => index

def run (index : EntityIndex) (calls : List IndexCall) : EntityIndex :=
  calls.foldl step index

theorem run_append (index : EntityIndex) (first second : List IndexCall) :
    index.run (first ++ second) = (index.run first).run second :=
  List.foldl_append

theorem exists_of_map_snd {ε α β : Type} {result : Except ε (α × β)} {after : β}
    (done : result.map Prod.snd = .ok after) : ∃ answer, result = .ok (answer, after) := by
  cases result with
  | error failure => cases done
  | ok pair =>
    cases done
    exact ⟨pair.1, rfl⟩

theorem WellFormed.apply {index after : EntityIndex} (wf : index.WellFormed) {call : IndexCall}
    (done : index.apply call = .ok after) : after.WellFormed := by
  cases call with
  | insert parent entity =>
    obtain ⟨id, inserted⟩ := exists_of_map_snd done
    exact (insert_eq_ok inserted).wellFormed wf
  | remove id =>
    obtain ⟨removed, taken⟩ := exists_of_map_snd done
    obtain ⟨entity, gone⟩ := remove_eq_ok taken
    exact gone.wellFormed wf
  | setMeasure id metric value => exact wellFormed_update wf done fun _ => rfl
  | addMeasure id metric delta => exact wellFormed_update wf done fun _ => rfl
  | addRemark id remark => exact wellFormed_update wf done fun _ => rfl
  | decorate metrics id =>
    cases done
    exact wellFormed_decorate metrics wf id
  | flush =>
    cases done
    exact wellFormed_flush index

theorem WellFormed.step {index : EntityIndex} (wf : index.WellFormed) (call : IndexCall) :
    (index.step call).WellFormed := by
  unfold EntityIndex.step
  split
  next after done => exact wf.apply done
  next => exact wf

theorem WellFormed.run {index : EntityIndex} (wf : index.WellFormed) (calls : List IndexCall) :
    (index.run calls).WellFormed := by
  induction calls generalizing index with
  | nil => exact wf
  | cons call rest ih => exact ih (wf.step call)

theorem wellFormed_run_ofProject (project : Entity) (calls : List IndexCall) :
    ((ofProject project).run calls).WellFormed :=
  (wellFormed_ofProject project).run calls

/-- The identifiers in use are as many as the slots that hold an entity. -/
theorem card_liveIds (index : EntityIndex) :
    index.liveIds.card = index.slots.toList.countP Option.isSome := by
  rw [slots_toList, List.countP_map, List.countP_eq_length_filter, liveIds, Finset.card,
    Finset.filter_val, Finset.range_val, Multiset.range, Multiset.filter_coe, Multiset.coe_card]
  congr 2
  funext id
  exact Bool.decide_eq_true

/-- After any calls, refused ones included, the project is the one entity without a parent; every
other entity is listed once, by an older entity and by no other; the table of keys leads to every
entity by its own key and nowhere else; and the size is the number of slots in use. -/
theorem run_strict_tree (project : Entity) (calls : List IndexCall) :
    let index := (ofProject project).run calls
    (∀ id, (∃ entity, index.get? id = some entity ∧ entity.parent? = none) ↔ id = root) ∧
    (∀ id entity, index.get? id = some entity → entity.id? = some id) ∧
    (∀ id entity, index.get? id = some entity → id ≠ root →
      ∃ parent above, entity.parent? = some parent ∧ parent < id ∧
        index.get? parent = some above ∧ above.children.count id = 1 ∧
        ∀ other second, index.get? other = some second → id ∈ second.children → other = parent) ∧
    (∀ id entity, index.get? id = some entity →
      entity.children.Pairwise (· < ·) ∧ ∀ child ∈ entity.children, index.contains child = true) ∧
    (∀ key id, index.idOf? key = some id ↔
      ∃ entity, index.get? id = some entity ∧ entity.key = key) ∧
    (∀ key entity, index.find? key = some entity ↔
      ∃ id, index.get? id = some entity ∧ entity.key = key) ∧
    (∀ id entity other second, index.get? id = some entity → index.get? other = some second →
      entity.key = second.key → id = other) ∧
    index.size = index.slots.toList.countP Option.isSome := by
  intro index
  have wf : index.WellFormed := wellFormed_run_ofProject project calls
  refine ⟨?_, fun _ _ => wf.id_eq, ?_, ?_, fun _ _ => wf.keyed, ?_,
    fun _ _ _ _ => wf.key_unique, wf.size_eq.trans index.card_liveIds⟩
  · intro id
    constructor
    · rintro ⟨entity, found, orphan⟩
      by_contra notRoot
      obtain ⟨parent, _, isParent, _⟩ := wf.listed found notRoot
      rw [orphan] at isParent
      cases isParent
    · rintro rfl
      exact wf.root_live
  · intro id entity found notRoot
    obtain ⟨parent, above, isParent, older, foundAbove, member⟩ := wf.listed found notRoot
    refine ⟨parent, above, isParent, older, foundAbove, ?_, ?_⟩
    · exact List.count_eq_one_of_mem (wf.children_nodup foundAbove) member
    · intro other second foundOther memberOther
      exact wf.parent_unique foundOther memberOther foundAbove member
  · intro id entity found
    refine ⟨wf.sorted found, fun child member => ?_⟩
    obtain ⟨below, foundBelow, _⟩ := wf.linked found member
    exact contains_of_get? foundBelow
  · intro key entity
    unfold find?
    rw [Option.bind_eq_some_iff]
    constructor
    · rintro ⟨id, isKey, found⟩
      obtain ⟨known, foundKnown, same⟩ := wf.keyed.mp isKey
      rw [found] at foundKnown
      cases foundKnown
      exact ⟨id, found, same⟩
    · rintro ⟨id, found, same⟩
      exact ⟨id, wf.keyed.mpr ⟨entity, found, same⟩, found⟩

end EntityIndex

end CodeMetrics
