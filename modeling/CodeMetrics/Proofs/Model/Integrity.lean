import CodeMetrics.Model
import CodeMetrics.Proofs.Graph.Anchored
import CodeMetrics.Proofs.Index.Run

/-!
The index and the graph of a code model stay in step. Whatever is called in whatever order, the graph
knows only entities of the index, so no edge is left over when a subtree goes; and a call that is
refused changes neither of the two.
-/

namespace CodeMetrics

inductive ModelCall where
  | insert (parent : EntityId) (entity : Entity)
  | remove (id : EntityId)
  | addEdge (edge : Edge)
  | setMeasure (id : EntityId) (metric : Metric) (value : Float)
  | addMeasure (id : EntityId) (metric : Metric) (delta : Float)
  | addRemark (id : EntityId) (remark : Remark)
  | decorate (metrics : List Metric)
  | flush

namespace Model

def apply (model : Model) : ModelCall → Except ModelError Model
  | .insert parent entity => (model.insert parent entity).map Prod.snd
  | .remove id => (model.remove id).map Prod.snd
  | .addEdge edge => (model.addEdge edge).map Prod.snd
  | .setMeasure id metric value => model.setMeasure id metric value
  | .addMeasure id metric delta => model.addMeasure id metric delta
  | .addRemark id remark => model.addRemark id remark
  | .decorate metrics => .ok (model.decorate metrics)
  | .flush => .ok model.flush

/-- The model after a call, and the error of a call that is refused. -/
def step (model : Model) (call : ModelCall) : Model × Option ModelError :=
  match model.apply call with
  | .ok after => (after, none)
  | .error error => (model, some error)

def run (model : Model) (calls : List ModelCall) : Model :=
  calls.foldl (fun model call => (model.step call).1) model

/-- The graph knows entities of the index only. -/
structure Consistent (model : Model) : Prop where
  wellFormed : model.index.WellFormed
  anchored : model.graph.Anchored
  known_live : ∀ id ∈ model.graph.vertices, model.index.contains id = true

theorem consistent_ofProject (project : Entity) : (ofProject project).Consistent where
  wellFormed := EntityIndex.wellFormed_ofProject project
  anchored := UsageGraph.anchored_empty
  known_live := fun _ member => nomatch member

/-- What the calls that leave the graph alone do: they keep every entity that was there. -/
theorem Consistent.of_index {model : Model} (consistent : model.Consistent) {index : EntityIndex}
    (wellFormed : index.WellFormed)
    (keeps : ∀ id, model.index.contains id = true → index.contains id = true) :
    Consistent { model with index } where
  wellFormed := wellFormed
  anchored := consistent.anchored
  known_live := fun id member => keeps id (consistent.known_live id member)

/-- A change of the index alone, seen from the model. -/
theorem exists_of_withIndex {model after : Model} {result : Except ModelError EntityIndex}
    (done : (do return { model with index := ← result } : Except ModelError Model) = .ok after) :
    ∃ index, result = .ok index ∧ after = { model with index } := by
  cases result with
  | error error => cases done
  | ok index =>
    cases done
    exact ⟨index, rfl, rfl⟩

theorem insert_eq_ok {model after : Model} {parent id : EntityId} {entity : Entity}
    (done : model.insert parent entity = .ok (id, after)) :
    ∃ index, model.index.Inserted parent entity id index ∧ after = { model with index } := by
  unfold Model.insert at done
  cases inserted : model.index.insert parent entity with
  | error error => simp [inserted, bind, Except.bind] at done
  | ok pair =>
    obtain ⟨newId, index⟩ := pair
    rw [inserted] at done
    cases done
    exact ⟨index, EntityIndex.insert_eq_ok inserted, rfl⟩

theorem Consistent.insert {model after : Model} {parent id : EntityId} {entity : Entity}
    (consistent : model.Consistent) (done : model.insert parent entity = .ok (id, after)) :
    after.Consistent := by
  obtain ⟨index, placed, rfl⟩ := insert_eq_ok done
  refine consistent.of_index (placed.wellFormed consistent.wellFormed) ?_
  intro other live
  obtain ⟨known, found⟩ := EntityIndex.contains_iff.mp live
  exact EntityIndex.contains_of_get? (placed.keeps found)

theorem Consistent.update {model : Model} {index : EntityIndex} {id : EntityId}
    {change : Entity → Entity} (consistent : model.Consistent)
    (done : model.index.update id change = .ok index)
    (keeps : ∀ entity, (change entity).links = entity.links) :
    Consistent { model with index } := by
  have wellFormed := EntityIndex.wellFormed_update consistent.wellFormed done keeps
  obtain ⟨_, rfl⟩ := EntityIndex.update_eq_ok done
  have agree := EntityIndex.Agree.modify model.index id change keeps
  exact consistent.of_index wellFormed fun other live => (agree.contains_eq other).trans live

theorem Consistent.decorate {model : Model} (consistent : model.Consistent)
    (metrics : List Metric) : (model.decorate metrics).Consistent := by
  have agree := EntityIndex.agree_decorate metrics model.index EntityIndex.root
  exact consistent.of_index
    (EntityIndex.wellFormed_decorate metrics consistent.wellFormed EntityIndex.root)
    fun other live => (agree.contains_eq other).trans live

theorem Consistent.addEdge {model after : Model} {edge : Edge} {isNew : Bool}
    (consistent : model.Consistent) (done : model.addEdge edge = .ok (isNew, after)) :
    after.Consistent := by
  unfold Model.addEdge at done
  split at done
  next => cases done
  next source =>
    split at done
    next => cases done
    next target =>
      cases done
      refine ⟨consistent.wellFormed, consistent.anchored.addEdge edge, ?_⟩
      intro id member
      rcases UsageGraph.mem_vertices_addEdge.mp member with known | rfl | rfl
      · exact consistent.known_live id known
      · simpa using source
      · simpa using target

/-- The graph loses exactly the entities that the index loses. -/
theorem remove_eq_ok {model after : Model} {id : EntityId} {removed : List Entity}
    (wf : model.index.WellFormed) (done : model.remove id = .ok (removed, after)) :
    (∃ entity, model.index.Removed id entity removed after.index) ∧
      after.graph = model.graph.removeVertices (model.index.subtree id) := by
  unfold Model.remove at done
  cases taken : model.index.remove id with
  | error error => simp [taken, bind, Except.bind] at done
  | ok pair =>
    obtain ⟨leaving, index⟩ := pair
    rw [taken] at done
    cases done
    obtain ⟨entity, gone⟩ := EntityIndex.remove_eq_ok taken
    refine ⟨⟨entity, gone⟩, ?_⟩
    rw [← gone.ids_removed wf]
    rfl

theorem Consistent.remove {model after : Model} {id : EntityId} {removed : List Entity}
    (consistent : model.Consistent) (done : model.remove id = .ok (removed, after)) :
    after.Consistent := by
  have wf := consistent.wellFormed
  obtain ⟨⟨entity, gone⟩, sameGraph⟩ := remove_eq_ok wf done
  refine ⟨gone.wellFormed wf, ?_, ?_⟩
  · rw [sameGraph]
    exact consistent.anchored.removeVertices _
  · intro other member
    rw [sameGraph, UsageGraph.mem_vertices_removeVertices] at member
    obtain ⟨known, found⟩ := EntityIndex.contains_iff.mp (consistent.known_live other member.1)
    have outside : ¬model.index.Within id other := fun inside =>
      member.2 ((EntityIndex.mem_subtree_iff wf).mpr inside)
    exact EntityIndex.contains_of_get? (gone.keeps wf found outside)

theorem Consistent.apply {model after : Model} (consistent : model.Consistent) {call : ModelCall}
    (done : model.apply call = .ok after) : after.Consistent := by
  cases call with
  | insert parent entity =>
    obtain ⟨id, inserted⟩ := EntityIndex.exists_of_map_snd done
    exact consistent.insert inserted
  | remove id =>
    obtain ⟨removed, taken⟩ := EntityIndex.exists_of_map_snd done
    exact consistent.remove taken
  | addEdge edge =>
    obtain ⟨isNew, added⟩ := EntityIndex.exists_of_map_snd done
    exact consistent.addEdge added
  | setMeasure id metric value =>
    obtain ⟨index, updated, rfl⟩ := exists_of_withIndex done
    exact consistent.update updated fun _ => rfl
  | addMeasure id metric delta =>
    obtain ⟨index, updated, rfl⟩ := exists_of_withIndex done
    exact consistent.update updated fun _ => rfl
  | addRemark id remark =>
    obtain ⟨index, updated, rfl⟩ := exists_of_withIndex done
    exact consistent.update updated fun _ => rfl
  | decorate metrics =>
    cases done
    exact consistent.decorate metrics
  | flush =>
    cases done
    exact consistent_ofProject _

theorem Consistent.step {model : Model} (consistent : model.Consistent) (call : ModelCall) :
    (model.step call).1.Consistent := by
  unfold Model.step
  split
  next after done => exact consistent.apply done
  next => exact consistent

theorem Consistent.run {model : Model} (consistent : model.Consistent) (calls : List ModelCall) :
    (model.run calls).Consistent := by
  induction calls generalizing model with
  | nil => exact consistent
  | cons call rest ih => exact ih (consistent.step call)

end Model

/-- When a call is refused: a key is taken, or an entity that the call needs is not there. -/
def ModelCall.Refused (model : Model) : ModelCall → Prop
  | .insert parent entity =>
    (∃ id known, model.index.get? id = some known ∧ known.key = entity.key) ∨
      model.index.contains parent = false
  | .remove id => id = EntityIndex.root ∨ model.index.contains id = false
  | .addEdge edge =>
    model.index.contains edge.source = false ∨ model.index.contains edge.target = false
  | .setMeasure id _ _ => model.index.contains id = false
  | .addMeasure id _ _ => model.index.contains id = false
  | .addRemark id _ => model.index.contains id = false
  | .decorate _ => False
  | .flush => False

namespace Model

theorem exists_error_bind {α β : Type} {result : Except ModelError α} {next : α → β} :
    (∃ error, (result >>= fun value => pure (next value)) = Except.error error) ↔
      ∃ error, result = .error error := by
  cases result <;> simp [bind, Except.bind, pure, Except.pure]

theorem exists_error_map {α β : Type} {result : Except ModelError α} {next : α → β} :
    (∃ error, result.map next = Except.error error) ↔ ∃ error, result = .error error := by
  cases result <;> simp [Except.map]

theorem apply_eq_error_iff {model : Model} (wf : model.index.WellFormed) (call : ModelCall) :
    (∃ error, model.apply call = .error error) ↔ call.Refused model := by
  cases call with
  | insert parent entity =>
    have taken : model.index.idOf? entity.key ≠ none ↔
        ∃ id known, model.index.get? id = some known ∧ known.key = entity.key := by
      simp only [Option.ne_none_iff_exists', wf.keyed]
    rw [ModelCall.Refused, ← taken, ← EntityIndex.insert_eq_error_iff]
    exact exists_error_map.trans exists_error_bind
  | remove id =>
    rw [ModelCall.Refused, ← EntityIndex.remove_eq_error_iff]
    exact exists_error_map.trans exists_error_bind
  | addEdge edge =>
    refine exists_error_map.trans ?_
    unfold Model.addEdge ModelCall.Refused
    cases source : model.index.contains edge.source <;>
      cases target : model.index.contains edge.target <;> simp [source, target]
  | setMeasure id metric value =>
    exact exists_error_bind.trans EntityIndex.update_eq_error_iff
  | addMeasure id metric delta =>
    exact exists_error_bind.trans EntityIndex.update_eq_error_iff
  | addRemark id remark =>
    exact exists_error_bind.trans EntityIndex.update_eq_error_iff
  | decorate metrics => simp [Model.apply, ModelCall.Refused]
  | flush => simp [Model.apply, ModelCall.Refused]

theorem step_eq_of_error {model : Model} {call : ModelCall}
    (failed : (model.step call).2 ≠ none) :
    (model.step call).1 = model ∧ ∃ error, model.apply call = .error error := by
  unfold Model.step at failed ⊢
  split
  next after done =>
    rw [done] at failed
    exact absurd rfl failed
  next error refused => exact ⟨rfl, error, refused⟩

/-- After any calls with any arguments, whatever the graph knows is in the index, so both ends of
every edge are; no edge is stored twice. The next call fails exactly when it is given a taken key
or an entity that is not there, and then the model stays as it was. -/
theorem run_referential_integrity (project : Entity) (calls : List ModelCall) :
    let model := (ofProject project).run calls
    (∀ id, model.graph.containsVertex id = true → model.index.contains id = true) ∧
    (∀ edge ∈ model.graph.edges,
      model.graph.containsVertex edge.source = true ∧ model.index.contains edge.source = true ∧
      model.graph.containsVertex edge.target = true ∧ model.index.contains edge.target = true) ∧
    model.graph.edges.Nodup ∧
    (∀ call, (model.step call).2 ≠ none ↔ call.Refused model) ∧
    (∀ call, (model.step call).2 ≠ none → (model.step call).1 = model) := by
  intro model
  have consistent : model.Consistent := (consistent_ofProject project).run calls
  have known : ∀ id, model.graph.containsVertex id = true ↔ id ∈ model.graph.vertices := by
    intro id
    simp [UsageGraph.containsVertex]
  refine ⟨?_, ?_, consistent.anchored.edges_nodup, ?_, fun call failed => (step_eq_of_error failed).1⟩
  · intro id isKnown
    exact consistent.known_live id ((known id).mp isKnown)
  · intro edge member
    have source := consistent.anchored.source_known edge member
    have target := consistent.anchored.target_known edge member
    exact ⟨(known _).mpr source, consistent.known_live _ source, (known _).mpr target,
      consistent.known_live _ target⟩
  · intro call
    rw [← apply_eq_error_iff consistent.wellFormed call]
    constructor
    · intro failed
      exact (step_eq_of_error failed).2
    · rintro ⟨error, refused⟩
      simp [Model.step, refused]

end Model

end CodeMetrics
