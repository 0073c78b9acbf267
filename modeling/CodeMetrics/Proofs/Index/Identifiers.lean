import CodeMetrics.Proofs.Index.Run

/-!
How long an identifier stands for one entity. Entities are numbered in the order in which they come,
so between two flushes no number is given twice, and a number whose entity is gone stands for
nothing. A flush starts the numbering again.
-/

namespace CodeMetrics

/-- What an entity keeps for as long as it is in an index. -/
def Entity.lasting (entity : Entity) : Entity :=
  { entity with children := [], raw := .empty, decorated? := none, remarks := [] }

namespace EntityIndex

/-- Numbers that were given out stand for the entity that they stood for, or for nothing. -/
structure Continues (before after : EntityIndex) : Prop where
  slots_le : before.slots.size ≤ after.slots.size
  same : ∀ {id entity}, id < before.slots.size → after.get? id = some entity →
    ∃ earlier, before.get? id = some earlier ∧ earlier.lasting = entity.lasting

namespace Continues

variable {index middle after : EntityIndex}

theorem refl (index : EntityIndex) : Continues index index :=
  ⟨Nat.le_refl _, fun _ found => ⟨_, found, rfl⟩⟩

theorem trans (first : Continues index middle) (second : Continues middle after) :
    Continues index after := by
  refine ⟨Nat.le_trans first.slots_le second.slots_le, ?_⟩
  intro id entity old found
  have known : id < middle.slots.size := Nat.lt_of_lt_of_le old first.slots_le
  obtain ⟨between, foundBetween, sameLater⟩ := second.same known found
  obtain ⟨earlier, foundEarlier, sameEarlier⟩ := first.same old foundBetween
  exact ⟨earlier, foundEarlier, sameEarlier.trans sameLater⟩

theorem of_agree (agree : Agree Entity.lasting index after) : Continues index after := by
  refine ⟨Nat.le_of_eq agree.slots.symm, ?_⟩
  intro id entity _ found
  exact agree.symm.found found

theorem of_inserted {parent id : EntityId} {entity : Entity}
    (inserted : index.Inserted parent entity id after) : Continues index after := by
  refine ⟨by rw [inserted.slots]; omega, ?_⟩
  intro other known old found
  have notNew : other ≠ id := by
    rw [inserted.newest]
    exact Nat.ne_of_lt old
  rw [inserted.lookup_old notNew] at found
  obtain ⟨earlier, foundEarlier, rfl⟩ := Option.map_eq_some_iff.mp found
  refine ⟨earlier, foundEarlier, ?_⟩
  unfold Inserted.grow
  split <;> rfl

theorem of_removed {id : EntityId} {entity : Entity} {removed : List Entity}
    (gone : index.Removed id entity removed after) : Continues index after := by
  refine ⟨Nat.le_of_eq gone.slots.symm, ?_⟩
  intro other known _ found
  rw [gone.lookup] at found
  split at found
  next => cases found
  next =>
    split at found
    next =>
      obtain ⟨earlier, foundEarlier, rfl⟩ := Option.map_eq_some_iff.mp found
      exact ⟨earlier, foundEarlier, rfl⟩
    next => exact ⟨known, found, rfl⟩

theorem of_update {id : EntityId} {change : Entity → Entity}
    (done : index.update id change = .ok after)
    (keeps : ∀ entity, (change entity).lasting = entity.lasting) : Continues index after := by
  obtain ⟨_, rfl⟩ := update_eq_ok done
  exact of_agree (Agree.modify index id change keeps)

/-- Every call but a flush goes on with the numbering. -/
theorem apply {call : IndexCall} (kept : call ≠ .flush) (done : index.apply call = .ok after) :
    Continues index after := by
  cases call with
  | insert parent entity =>
    obtain ⟨id, inserted⟩ := exists_of_map_snd done
    exact of_inserted (insert_eq_ok inserted)
  | remove id =>
    obtain ⟨removed, taken⟩ := exists_of_map_snd done
    obtain ⟨entity, gone⟩ := remove_eq_ok taken
    exact of_removed gone
  | setMeasure id metric value => exact of_update done fun _ => rfl
  | addMeasure id metric delta => exact of_update done fun _ => rfl
  | addRemark id remark => exact of_update done fun _ => rfl
  | decorate metrics id =>
    cases done
    exact of_agree ((agree_decorate metrics index id).weaken Entity.lasting)
  | flush => exact absurd rfl kept

theorem step {call : IndexCall} (kept : call ≠ .flush) : Continues index (index.step call) := by
  unfold EntityIndex.step
  split
  next after done => exact apply kept done
  next => exact refl index

theorem run {calls : List IndexCall} (unflushed : .flush ∉ calls) :
    Continues index (index.run calls) := by
  induction calls generalizing index with
  | nil => exact refl index
  | cons call rest ih =>
    rw [List.mem_cons, not_or] at unflushed
    have first : Continues index (index.step call) := step (Ne.symm unflushed.1)
    exact first.trans (ih unflushed.2)

/-- A number whose entity is gone does not come back. -/
theorem missing (continues : Continues index after) {id : EntityId} (old : id < index.slots.size)
    (gone : index.get? id = none) : after.get? id = none := by
  cases found : after.get? id with
  | none => rfl
  | some entity =>
    obtain ⟨earlier, foundEarlier, _⟩ := continues.same old found
    rw [gone] at foundEarlier
    cases foundEarlier

end Continues

def admits (index : EntityIndex) (call : IndexCall) : Bool :=
  match call with
  | .insert _ _ => (index.apply call).isOk
  | _ => false

def admissions (index : EntityIndex) : List IndexCall → Nat
  | [] => 0
  | call :: rest => (if index.admits call then 1 else 0) + (index.step call).admissions rest

theorem slots_size_update {index after : EntityIndex} {id : EntityId} {change : Entity → Entity}
    (done : index.update id change = .ok after) : after.slots.size = index.slots.size := by
  obtain ⟨_, rfl⟩ := update_eq_ok done
  exact slots_size_modify index id change

theorem slots_size_apply {index after : EntityIndex} {call : IndexCall} (kept : call ≠ .flush)
    (done : index.apply call = .ok after) :
    after.slots.size = index.slots.size + if index.admits call then 1 else 0 := by
  cases call with
  | insert parent entity =>
    obtain ⟨id, inserted⟩ := exists_of_map_snd done
    have admitted : index.admits (.insert parent entity) = true := by
      rw [admits, done]
      rfl
    rw [if_pos admitted]
    exact (insert_eq_ok inserted).slots
  | remove id =>
    obtain ⟨removed, taken⟩ := exists_of_map_snd done
    obtain ⟨entity, gone⟩ := remove_eq_ok taken
    exact gone.slots
  | setMeasure id metric value => exact slots_size_update done
  | addMeasure id metric delta => exact slots_size_update done
  | addRemark id remark => exact slots_size_update done
  | decorate metrics id =>
    cases done
    exact (agree_decorate metrics index id).slots
  | flush => exact absurd rfl kept

theorem slots_size_step {index : EntityIndex} {call : IndexCall} (kept : call ≠ .flush) :
    (index.step call).slots.size = index.slots.size + if index.admits call then 1 else 0 := by
  unfold step
  split
  next after done => exact slots_size_apply kept done
  next error refused =>
    have rejected : index.admits call = false := by
      unfold admits
      split
      · rw [refused]
        rfl
      · rfl
    rw [if_neg (by simp [rejected])]
    rfl

theorem slots_size_run {index : EntityIndex} {calls : List IndexCall}
    (unflushed : .flush ∉ calls) :
    (index.run calls).slots.size = index.slots.size + index.admissions calls := by
  induction calls generalizing index with
  | nil => rfl
  | cons call rest ih =>
    rw [List.mem_cons, not_or] at unflushed
    calc ((index.step call).run rest).slots.size
        = (index.step call).slots.size + (index.step call).admissions rest := ih unflushed.2
      _ = index.slots.size + index.admissions (call :: rest) := by
        rw [slots_size_step (Ne.symm unflushed.1), admissions, Nat.add_assoc]

/-- An identifier is given to an entity. Until the next flush it stands for that entity or, once the
entity is gone, for nothing, and it is not given again. After a flush the numbers start from one, so
the identifier is given again to the entity that comes to have as many entities before it. -/
theorem run_identifier_until_flush (project : Entity) (earlier : List IndexCall)
    (parent id : EntityId) (entity : Entity) (given : EntityIndex)
    (issued : ((ofProject project).run earlier).insert parent entity = .ok (id, given))
    (later : List IndexCall) :
    let index := given.run later
    (.flush ∉ later →
      (∀ known, index.get? id = some known →
        known.lasting = { entity with id? := some id, parent? := some parent }.lasting) ∧
      (∀ above other next after, index.insert above other = .ok (next, after) → id < next) ∧
      (index.get? id = none → ∀ more, .flush ∉ more → (index.run more).get? id = none)) ∧
    (∀ before since, later = before ++ .flush :: since → .flush ∉ since →
      let fresh := (given.run before).flush
      (fresh.admissions since < id → index.get? id = none) ∧
      ∀ above other next after, index.insert above other = .ok (next, after) →
        (next = id ↔ fresh.admissions since + 1 = id)) := by
  intro index
  have inserted := insert_eq_ok issued
  have old : id < given.slots.size := by
    rw [inserted.slots, inserted.newest]
    exact Nat.lt_succ_self _
  refine ⟨?_, ?_⟩
  · intro unflushed
    have continues : Continues given index := .run unflushed
    refine ⟨?_, ?_, ?_⟩
    · intro known found
      obtain ⟨first, foundFirst, same⟩ := continues.same old found
      rw [inserted.found_new] at foundFirst
      cases foundFirst
      exact same.symm
    · intro above other next after again
      rw [(insert_eq_ok again).newest]
      exact Nat.lt_of_lt_of_le old continues.slots_le
    · intro gone more unflushedMore
      have further : Continues index (index.run more) := .run unflushedMore
      exact further.missing (Nat.lt_of_lt_of_le old continues.slots_le) gone
  · intro before since split unflushed fresh
    have ran : index = fresh.run since := by
      change given.run later = _
      rw [split, run_append]
      rfl
    -- A flush leaves the project alone, so from there on the slots count what was admitted.
    have slots : index.slots.size = 1 + fresh.admissions since := by
      rw [ran]
      exact slots_size_run unflushed
    refine ⟨?_, ?_⟩
    · intro fewer
      cases found : index.get? id with
      | none => rfl
      | some known =>
        have bound : id < index.slots.size := lt_size_of_get? found
        rw [slots, Nat.add_comm] at bound
        exact absurd fewer (Nat.not_lt_of_le (Nat.le_of_lt_succ bound))
    · intro above other next after again
      rw [(insert_eq_ok again).newest, slots, Nat.add_comm]

/-- The second of two files is removed. Its identifier stands for nothing while a third one comes,
and the next file after a flush does not get it either: that one gets the first identifier. -/
theorem run_identifier_of_removed_file :
    let start := ofProject { kind := .project, key := "p" }
    let first : List IndexCall := [.insert root { kind := .file, key := "a" }]
    let given := start.run (first ++ [.insert root { kind := .file, key := "b" }])
    let later : List IndexCall := [.remove 2, .insert root { kind := .file, key := "c" }]
    (start.run first).insert root { kind := .file, key := "b" } = .ok (2, given) ∧
      (∀ more, .flush ∉ more → ((given.run later).run more).get? 2 = none) ∧
      ∀ above other next after, (given.run (later ++ [.flush])).insert above other =
        .ok (next, after) → next ≠ 2 := by
  intro start first given later
  have issued : (start.run first).insert root { kind := .file, key := "b" } = .ok (2, given) := rfl
  refine ⟨issued, ?_, ?_⟩
  · have gone : (given.run later).get? 2 = none :=
      Option.isNone_iff_eq_none.mp (by decide +kernel)
    have kept := (run_identifier_until_flush _ first _ _ _ _ issued later).1 (by simp [later])
    exact kept.2.2 gone
  · intro above other next after again
    have anew := (run_identifier_until_flush _ first _ _ _ _ issued (later ++ [.flush])).2
      later [] rfl (by simp)
    rw [Ne, anew.2 above other next after again]
    decide

/-- The first file after a flush gets the identifier of the first file before it. -/
theorem flush_gives_identifier_again :
    let index := ofProject { kind := .project, key := "p" }
    ∃ given after, index.insert root { kind := .file, key := "a" } = .ok (1, given) ∧
      (given.run [.flush]).insert root { kind := .file, key := "b" } = .ok (1, after) ∧
      (given.get? 1).map Entity.key = some "a" ∧ (after.get? 1).map Entity.key = some "b" :=
  ⟨_, _, rfl, rfl, rfl, rfl⟩

end EntityIndex

end CodeMetrics
