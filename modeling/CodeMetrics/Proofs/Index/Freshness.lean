import CodeMetrics.Proofs.Index.Totals

/-!
Where the totals that an entity shows come from. The last call that bears on an entity decides: a
pass that visits it, a change of its values, or the call that gave it its identifier. A copy that
shows totals when it is put in keeps them, although no pass has visited it at its new place.
-/

namespace CodeMetrics.EntityIndex

def Gives (index : EntityIndex) (id : EntityId) : IndexCall → Prop
  | .insert parent entity => ∃ after, index.insert parent entity = .ok (id, after)
  | .flush => id = root
  | _ => False

def Revalues (id : EntityId) : IndexCall → Prop
  | .setMeasure other _ _ => other = id
  | .addMeasure other _ _ => other = id
  | _ => False

def Visits (id : EntityId) (index : EntityIndex) : IndexCall → Prop
  | .decorate _ top => index.Within top id
  | _ => False

/-- The call gives the identifier to a copy that shows totals already. -/
def Carries (id : EntityId) (index : EntityIndex) : IndexCall → Prop
  | .insert parent entity => entity.isDecorated = true ∧ index.Gives id (.insert parent entity)
  | _ => False

/-- The call leaves an entity as it was, apart from passes. -/
def Spares (index : EntityIndex) (id : EntityId) (call : IndexCall) : Prop :=
  ¬index.Gives id call ∧ ¬Revalues id call

/-- A call that changes one entity changes no other one, and none when that entity is missing. -/
theorem get?_step_of_update {index : EntityIndex} {call : IndexCall} {id : EntityId}
    {change : Entity → Entity} (applies : index.apply call = index.update id change)
    (other : EntityId) :
    (index.step call).get? other =
      if other = id then (index.get? other).map change else index.get? other := by
  unfold step
  rw [applies]
  split
  next after done =>
    obtain ⟨_, rfl⟩ := update_eq_ok done
    exact get?_modify index id other change
  next error refused =>
    have missing : index.contains id = false := update_eq_error_iff.mp ⟨error, refused⟩
    have absent : index.get? id = none := by simpa [contains] using missing
    by_cases same : other = id
    · rw [if_pos same, same, absent]
      rfl
    · rw [if_neg same]

variable {index : EntityIndex} {id : EntityId} {entity : Entity}

theorem found_before_update {call : IndexCall} {other : EntityId} {change : Entity → Entity}
    (applies : index.apply call = index.update other change)
    (found : (index.step call).get? id = some entity) :
    ∃ earlier, index.get? id = some earlier ∧
      entity = if id = other then change earlier else earlier := by
  rw [get?_step_of_update applies] at found
  by_cases same : id = other
  · rw [if_pos same] at found
    obtain ⟨earlier, foundEarlier, rfl⟩ := Option.map_eq_some_iff.mp found
    exact ⟨earlier, foundEarlier, (if_pos same).symm⟩
  · rw [if_neg same] at found
    exact ⟨entity, found, (if_neg same).symm⟩

/-- What a call has to do with the totals that an entity shows after it. -/
inductive Bearing (index : EntityIndex) (id : EntityId) (call : IndexCall) (entity : Entity) : Prop
  | visited (pass : Visits id index call) (shown : entity.isDecorated = true)
  | given (unvisited : ¬Visits id index call) (given : index.Gives id call)
    (kept : entity.isDecorated = true ↔ Carries id index call)
  | revalued (unvisited : ¬Visits id index call) (bare : ¬Carries id index call)
    (changed : Revalues id call) (discarded : entity.isDecorated = false)
  | spared (unvisited : ¬Visits id index call) (bare : ¬Carries id index call)
    (spares : index.Spares id call) (earlier : Entity) (found : index.get? id = some earlier)
    (same : entity.isDecorated = earlier.isDecorated)

theorem bearing_insert {parent : EntityId} {copy : Entity}
    (found : (index.step (.insert parent copy)).get? id = some entity) :
    index.Bearing id (.insert parent copy) entity := by
  unfold step at found
  split at found
  next after done =>
    obtain ⟨given, inserted⟩ := exists_of_map_snd done
    have placed := insert_eq_ok inserted
    rcases placed.found_cases found with ⟨rfl, rfl⟩ | ⟨other, earlier, foundEarlier, rfl⟩
    · exact .given not_false ⟨after, inserted⟩
        ⟨fun shown => ⟨shown, after, inserted⟩, fun carried => carried.1⟩
    · have ungiven : ¬index.Gives id (.insert parent copy) := by
        rintro ⟨second, again⟩
        rw [inserted] at again
        cases again
        exact other rfl
      refine .spared not_false (fun carried => ungiven carried.2) ⟨ungiven, not_false⟩ _
        foundEarlier ?_
      unfold Inserted.grow
      split <;> rfl
  next error refused =>
    have ungiven : ¬index.Gives id (.insert parent copy) := by
      rintro ⟨after, inserted⟩
      simp [apply, inserted, Except.map] at refused
    exact .spared not_false (fun carried => ungiven carried.2) ⟨ungiven, not_false⟩ _ found rfl

theorem bearing_remove (wf : index.WellFormed) {top : EntityId}
    (found : (index.step (.remove top)).get? id = some entity) :
    index.Bearing id (.remove top) entity := by
  have unchanged : ∃ earlier, index.get? id = some earlier ∧
      entity.isDecorated = earlier.isDecorated := by
    unfold step at found
    split at found
    next after done =>
      obtain ⟨removed, taken⟩ := exists_of_map_snd done
      obtain ⟨gone, leaves⟩ := remove_eq_ok taken
      obtain ⟨_, earlier, foundEarlier, rfl⟩ := leaves.found_old wf found
      exact ⟨earlier, foundEarlier, rfl⟩
    next => exact ⟨entity, found, rfl⟩
  obtain ⟨earlier, foundEarlier, same⟩ := unchanged
  exact .spared not_false not_false ⟨not_false, not_false⟩ earlier foundEarlier same

/-- A call that changes a value of one entity. -/
theorem bearing_revalue {call : IndexCall} {other : EntityId} {change : Entity → Entity}
    (applies : index.apply call = index.update other change)
    (discards : ∀ earlier, (change earlier).isDecorated = false)
    (unvisited : ¬Visits id index call) (bare : ¬Carries id index call)
    (ungiven : ¬index.Gives id call) (revalues : Revalues id call ↔ other = id)
    (found : (index.step call).get? id = some entity) : index.Bearing id call entity := by
  obtain ⟨earlier, foundEarlier, rfl⟩ := found_before_update applies found
  by_cases same : id = other
  · apply Bearing.revalued unvisited bare (revalues.mpr same.symm)
    rw [if_pos same]
    exact discards earlier
  · have spares : index.Spares id call :=
      ⟨ungiven, fun changed => same (revalues.mp changed).symm⟩
    apply Bearing.spared unvisited bare spares earlier foundEarlier
    rw [if_neg same]

theorem bearing_decorate (wf : index.WellFormed) {metrics : List Metric} {top : EntityId}
    (found : (index.step (.decorate metrics top)).get? id = some entity) :
    index.Bearing id (.decorate metrics top) entity := by
  have shown := shows_postOrder wf metrics top index (Agree.refl _ index) id
  change (index.step (.decorate metrics top)).get? id = _ at shown
  rw [found] at shown
  by_cases inside : index.Within top id
  · rw [if_pos ((mem_postOrder_iff wf).mpr inside)] at shown
    obtain ⟨earlier, _, rfl⟩ := Option.map_eq_some_iff.mp shown.symm
    exact .visited inside rfl
  · rw [if_neg fun visited => inside ((mem_postOrder_iff wf).mp visited)] at shown
    exact .spared inside not_false ⟨not_false, not_false⟩ _ shown.symm rfl

theorem bearing_flush (found : (index.step .flush).get? id = some entity) :
    index.Bearing id .flush entity := by
  change (ofProject _).get? id = some entity at found
  rw [get?_ofProject] at found
  split at found
  next isRoot =>
    cases found
    exact .given not_false isRoot (iff_of_false nofun not_false)
  next => cases found

theorem bearing_step (wf : index.WellFormed) {call : IndexCall}
    (found : (index.step call).get? id = some entity) : index.Bearing id call entity := by
  cases call with
  | insert parent copy => exact bearing_insert found
  | remove top => exact bearing_remove wf found
  | setMeasure other metric value =>
    exact bearing_revalue rfl (fun _ => rfl) not_false not_false not_false Iff.rfl found
  | addMeasure other metric delta =>
    exact bearing_revalue rfl (fun _ => rfl) not_false not_false not_false Iff.rfl found
  | addRemark other remark =>
    obtain ⟨earlier, foundEarlier, rfl⟩ := found_before_update rfl found
    refine .spared not_false not_false ⟨not_false, not_false⟩ earlier foundEarlier ?_
    split <;> rfl
  | decorate metrics top => exact bearing_decorate wf found
  | flush => exact bearing_flush found

/-! Runs. -/

def SparedBy (index : EntityIndex) (id : EntityId) : List IndexCall → Prop
  | [] => True
  | call :: rest => index.Spares id call ∧ (index.step call).SparedBy id rest

/-- There was such an event, and all calls since then left the entity as it was, apart from
passes. -/
def Since (event : EntityIndex → IndexCall → Prop) (index : EntityIndex) (id : EntityId)
    (calls : List IndexCall) : Prop :=
  ∃ before call after, calls = before ++ call :: after ∧ event (index.run before) call ∧
    (index.run (before ++ [call])).SparedBy id after

theorem sparedBy_concat (index : EntityIndex) (id : EntityId) (calls : List IndexCall)
    (last : IndexCall) :
    index.SparedBy id (calls ++ [last]) ↔
      index.SparedBy id calls ∧ (index.run calls).Spares id last := by
  induction calls generalizing index with
  | nil => simp [SparedBy, run]
  | cons call rest ih =>
    rw [List.cons_append, SparedBy, SparedBy, ih, and_assoc]
    rfl

theorem not_since_nil (event : EntityIndex → IndexCall → Prop) (index : EntityIndex)
    (id : EntityId) : ¬Since event index id [] := by
  rintro ⟨before, call, after, split, _⟩
  simp at split

/-- The last call is such an event, or it spares the entity and there was one before it. -/
theorem since_concat (event : EntityIndex → IndexCall → Prop) (index : EntityIndex)
    (id : EntityId) (calls : List IndexCall) (last : IndexCall) :
    Since event index id (calls ++ [last]) ↔
      event (index.run calls) last ∨
        ((index.run calls).Spares id last ∧ Since event index id calls) := by
  constructor
  · rintro ⟨before, call, after, split, happens, spared⟩
    rcases List.eq_nil_or_concat after with rfl | ⟨front, final, rfl⟩
    · obtain ⟨rfl, same⟩ := List.append_inj' split rfl
      cases same
      exact .inl happens
    · rw [List.concat_eq_append, ← List.cons_append, ← List.append_assoc] at split
      obtain ⟨rfl, same⟩ := List.append_inj' split rfl
      cases same
      rw [List.concat_eq_append, sparedBy_concat, ← run_append, List.append_assoc] at spared
      exact .inr ⟨spared.2, before, call, front, rfl, happens, spared.1⟩
  · rintro (happens | ⟨spares, before, call, front, rfl, happens, spared⟩)
    · exact ⟨calls, last, [], rfl, happens, trivial⟩
    · refine ⟨before, call, front ++ [last], by simp, happens, ?_⟩
      rw [sparedBy_concat, ← run_append, List.append_assoc]
      exact ⟨spared, spares⟩

/-- An entity shows totals if and only if a pass visited it, or it came as a copy that showed
totals, and since then no call changed a value of it or gave its identifier anew. -/
theorem isDecorated_run_iff {project : Entity} (plain : project.isDecorated = false)
    {calls : List IndexCall} {id : EntityId} {entity : Entity}
    (found : ((ofProject project).run calls).get? id = some entity) :
    entity.isDecorated = true ↔
      Since (Visits id) (ofProject project) id calls ∨
        Since (Carries id) (ofProject project) id calls := by
  -- From the end: the last call decides, or it leaves the matter to the calls before it.
  induction calls using List.reverseRecOn generalizing entity with
  | nil =>
    change (ofProject project).get? id = some entity at found
    rw [get?_ofProject] at found
    split at found
    next =>
      cases found
      apply iff_of_false (Bool.not_eq_true _ ▸ plain)
      exact fun since => since.elim (not_since_nil _ _ _) (not_since_nil _ _ _)
    next => cases found
  | append_singleton calls last ih =>
    rw [run_append] at found
    rw [since_concat, since_concat]
    cases bearing_step (wellFormed_run_ofProject project calls) found with
    | visited pass shown => exact iff_of_true shown (.inl (.inl pass))
    | given unvisited given kept =>
      have unspared : ¬((ofProject project).run calls).Spares id last := fun spares =>
        spares.1 given
      simp only [unvisited, unspared, false_and, or_false, false_or]
      exact kept
    | revalued unvisited bare changed discarded =>
      have unspared : ¬((ofProject project).run calls).Spares id last := fun spares =>
        spares.2 changed
      simp [unvisited, bare, unspared, discarded]
    | spared unvisited bare spares earlier foundEarlier same =>
      simp only [unvisited, bare, spares, true_and, false_or]
      rw [same]
      exact ih foundEarlier

theorem not_since_carries {start : EntityIndex} {id : EntityId} {calls : List IndexCall}
    (plain : ∀ parent copy, .insert parent copy ∈ calls → copy.isDecorated = false) :
    ¬Since (Carries id) start id calls := by
  rintro ⟨before, call, after, rfl, carried, _⟩
  cases call with
  | insert parent copy =>
    have bare : copy.isDecorated = false := plain parent copy (by simp)
    rw [carried.1] at bare
    cases bare
  | _ => exact carried

/-- The totals that an entity shows come from a pass that visited it after it got its identifier and
after its values last changed, or else it came with them, as a copy of an entity that showed totals.
Where no such copy is put in, every total comes from such a pass; and where there was neither, the
entity shows its own values. -/
theorem run_totals_from_pass_or_copy (project : Entity) (plain : project.isDecorated = false)
    (calls : List IndexCall) (id : EntityId) (entity : Entity)
    (found : ((ofProject project).run calls).get? id = some entity) :
    let passed := Since (Visits id) (ofProject project) id calls
    let carried := Since (Carries id) (ofProject project) id calls
    (entity.isDecorated = true ↔ passed ∨ carried) ∧
    ((∀ parent copy, .insert parent copy ∈ calls → copy.isDecorated = false) →
      (entity.isDecorated = true ↔ passed)) ∧
    (¬passed → ¬carried → entity.view = entity.raw) := by
  intro passed carried
  have shown : entity.isDecorated = true ↔ passed ∨ carried := isDecorated_run_iff plain found
  refine ⟨shown, ?_, ?_⟩
  · intro bare
    rw [shown]
    exact or_iff_left (not_since_carries bare)
  · intro unpassed uncarried
    have undecorated : entity.decorated? = none := by
      have none : ¬entity.isDecorated = true := fun isShown =>
        (shown.mp isShown).elim unpassed uncarried
      simpa [Entity.isDecorated] using none
    rw [Entity.view, undecorated]
    rfl

/-- A pass visits one file, and a second one comes after it: the first one shows totals, the second
one its own values. -/
theorem run_totals_of_two_files :
    let metric : Metric := { name := "lines", aggregation := .sum }
    let start := ofProject { kind := .project, key := "p" }
    let calls : List IndexCall := [.insert root { kind := .file, key := "a" },
      .setMeasure 1 metric 5, .decorate [metric] root, .insert root { kind := .file, key := "b" }]
    (∃ entity, (start.run calls).get? 1 = some entity ∧ entity.isDecorated = true ∧
      Since (Visits 1) start 1 calls) ∧
    ∃ entity, (start.run calls).get? 2 = some entity ∧ ¬Since (Visits 2) start 2 calls ∧
      entity.view = entity.raw := by
  intro metric start calls
  have plain : ∀ parent copy, .insert parent copy ∈ calls → copy.isDecorated = false := by
    intro parent copy member
    simp only [calls, List.mem_cons, List.not_mem_nil, reduceCtorEq, or_false, false_or,
      IndexCall.insert.injEq] at member
    rcases member with ⟨_, rfl⟩ | ⟨_, rfl⟩ <;> rfl
  constructor
  · obtain ⟨entity, found, shown⟩ : ∃ entity, (start.run calls).get? 1 = some entity ∧
        entity.isDecorated = true := (Option.any_eq_true _ _).mp (by decide +kernel)
    have origin := run_totals_from_pass_or_copy _ rfl calls 1 entity found
    exact ⟨entity, found, shown, (origin.2.1 plain).mp shown⟩
  · obtain ⟨entity, found, bare⟩ : ∃ entity, (start.run calls).get? 2 = some entity ∧
        (!entity.isDecorated) = true := (Option.any_eq_true _ _).mp (by decide +kernel)
    have origin := run_totals_from_pass_or_copy _ rfl calls 2 entity found
    have unpassed : ¬Since (Visits 2) start 2 calls := fun passed => by
      simp [(origin.2.1 plain).mpr passed] at bare
    exact ⟨entity, found, unpassed, origin.2.2 unpassed (not_since_carries plain)⟩

theorem unvisited_when_reinserted {start gone after : EntityIndex} {calls : List IndexCall}
    {top parent id : EntityId} {removed : List Entity} {copy : Entity}
    (taken : (start.run calls).remove top = .ok (removed, gone))
    (given : gone.insert parent copy = .ok (id, after)) :
    ¬Since (Visits id) start id (calls ++ [.remove top, .insert parent copy]) := by
  have withdrawn : start.run (calls ++ [.remove top]) = gone := by
    rw [run_append]
    change (start.run calls).step (.remove top) = gone
    simp only [step, apply, taken, Except.map]
  rw [← List.singleton_append, ← List.append_assoc, since_concat, withdrawn]
  rintro (visited | ⟨spares, _⟩)
  · exact visited
  · exact spares.1 ⟨after, given⟩

theorem exists_ok_of_any {ε α : Type} {result : Except ε α} {check : α → Bool}
    (passes : result.toOption.any check = true) :
    ∃ answer, result = .ok answer ∧ check answer = true := by
  cases result with
  | error failure => cases passes
  | ok answer => exact ⟨answer, rfl, passes⟩

/-- A package with a file is decorated and taken out, and its copy is put in again: the copy has no
child and no value of its own and shows a total, and no pass has visited it. -/
theorem reinserted_package_shows_totals :
    let metric : Metric := { name := "lines", aggregation := .sum }
    let start := ofProject { kind := .project, key := "p" }
    let calls : List IndexCall := [.insert root { kind := .package, key := "a" },
      .insert 1 { kind := .file, key := "b" }, .setMeasure 2 metric 5, .decorate [metric] root]
    ∃ removed copy gone after entity, (start.run calls).remove 1 = .ok (removed, gone) ∧
      removed.head? = some copy ∧ gone.insert root copy = .ok (3, after) ∧
      after.get? 3 = some entity ∧ entity.children = [] ∧ entity.raw.get? "lines" = none ∧
      (∃ total, entity.view.get? "lines" = some total) ∧
      ¬Since (Visits 3) start 3 (calls ++ [.remove 1, .insert root copy]) := by
  intro metric start calls
  have evaluated : (((start.run calls).remove 1).toOption.any fun taken =>
      taken.1.head?.any fun copy => (taken.2.insert root copy).toOption.any fun given =>
        given.1 == 3 && (given.2.get? 3).any fun entity => entity.children.isEmpty &&
          (entity.raw.get? "lines").isNone && (entity.view.get? "lines").isSome) = true := by
    decide +kernel
  obtain ⟨⟨removed, gone⟩, taken, evaluated⟩ := exists_ok_of_any evaluated
  obtain ⟨copy, first, evaluated⟩ := (Option.any_eq_true _ _).mp evaluated
  obtain ⟨⟨id, after⟩, given, evaluated⟩ := exists_ok_of_any evaluated
  obtain ⟨isThird, evaluated⟩ := (Bool.and_eq_true _ _).mp evaluated
  obtain rfl : id = 3 := eq_of_beq isThird
  obtain ⟨entity, found, evaluated⟩ := (Option.any_eq_true _ _).mp evaluated
  simp only [Bool.and_eq_true, List.isEmpty_iff, Option.isNone_iff_eq_none,
    Option.isSome_iff_exists] at evaluated
  obtain ⟨⟨childless, valueless⟩, shown⟩ := evaluated
  exact ⟨removed, copy, gone, after, entity, taken, first, given, found, childless, valueless,
    shown, unvisited_when_reinserted taken given⟩

end CodeMetrics.EntityIndex
