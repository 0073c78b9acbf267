import CodeMetrics.Proofs.Graph.History

/-!
Which entities a graph knows. An entity becomes known with its first edge and stays known until it is
removed itself or the graph is cleared. So the known entities are told by the calls, and they are
more than the ends of the edges: an entity is deserted when the removal of others took all its edges.
-/

namespace CodeMetrics

def GraphCall.Forgets (id : EntityId) : GraphCall → Prop
  | .addEdge _ => False
  | .removeVertex gone => gone = id
  | .clear => True

/-- An edge at an entity was added before the calls `later`, which do not forget the entity. -/
structure Introduced (calls : List GraphCall) (id : EntityId) (edge : Edge)
    (later : List GraphCall) : Prop where
  added : ∃ before, calls = before ++ .addEdge edge :: later
  touches : edge.touches id = true
  kept : ∀ call ∈ later, ¬call.Forgets id

/-- An edge at an entity was added, and the entity was not forgotten since. -/
def Known (calls : List GraphCall) (id : EntityId) : Prop :=
  ∃ edge later, Introduced calls id edge later

/-- An entity is known, and of each of its edges the other end was removed later. -/
structure Deserted (calls : List GraphCall) (id : EntityId) : Prop where
  known : Known calls id
  left : ∀ edge later, Introduced calls id edge later →
    ∃ other, other ≠ id ∧ edge.touches other = true ∧ .removeVertex other ∈ later

theorem Edge.touches_iff {edge : Edge} {id : EntityId} :
    edge.touches id = true ↔ edge.source = id ∨ edge.target = id := by
  simp [touches]

theorem not_known_nil (id : EntityId) : ¬Known [] id := by
  rintro ⟨edge, later, ⟨before, same⟩, -, -⟩
  simp at same

/-- One more call: it adds an edge at the entity, or the entity was known and outlives it. -/
theorem known_concat {calls : List GraphCall} {call : GraphCall} {id : EntityId} :
    Known (calls ++ [call]) id ↔
      (∃ edge, call = .addEdge edge ∧ edge.touches id = true) ∨
        (Known calls id ∧ ¬call.Forgets id) := by
  constructor
  · rintro ⟨edge, later, ⟨before, same⟩, touches, kept⟩
    rcases concat_eq_split_iff.mp same with ⟨-, isAdd, -⟩ | ⟨rest, rfl, earlier⟩
    · exact .inl ⟨edge, isAdd, touches⟩
    · refine .inr ⟨⟨edge, rest, ⟨before, earlier⟩, touches, ?_⟩, kept call (by simp)⟩
      intro other member
      exact kept other (by simp [member])
  · rintro (⟨edge, rfl, touches⟩ | ⟨⟨edge, later, ⟨before, rfl⟩, touches, kept⟩, keeps⟩)
    · exact ⟨edge, [], ⟨calls, rfl⟩, touches, fun _ member => nomatch member⟩
    · refine ⟨edge, later ++ [call], ⟨before, by simp⟩, touches, ?_⟩
      intro other member
      rcases List.mem_append.mp member with early | last
      · exact kept other early
      · rwa [List.mem_singleton.mp last]

/-- Among the calls that do not forget an end of an edge, the ones that drop the edge remove its
other end. -/
theorem GraphCall.drops_iff {call : GraphCall} {edge : Edge} {id : EntityId}
    (keeps : ¬call.Forgets id) :
    call.Drops edge ↔
      ∃ other, other ≠ id ∧ edge.touches other = true ∧ call = .removeVertex other := by
  cases call with
  | addEdge added => simp [Drops]
  | clear => exact absurd trivial keeps
  | removeVertex gone =>
    have differs : gone ≠ id := keeps
    rw [Drops, ← Edge.touches_iff]
    constructor
    · intro atGone
      exact ⟨gone, differs, atGone, rfl⟩
    · rintro ⟨other, -, atOther, same⟩
      cases same
      exact atOther

theorem GraphCall.Forgets.drops {call : GraphCall} {edge : Edge} {id : EntityId}
    (forgets : call.Forgets id) (touches : edge.touches id = true) : call.Drops edge := by
  cases call with
  | addEdge added => exact forgets.elim
  | clear => trivial
  | removeVertex gone =>
    obtain rfl : gone = id := forgets
    exact Edge.touches_iff.mp touches

/-- An edge that is stored keeps both of its ends from being deserted, and only that does. -/
theorem deserted_iff {calls : List GraphCall} {id : EntityId} :
    Deserted calls id ↔ Known calls id ∧ ∀ edge, Stored calls edge → edge.touches id = false := by
  constructor
  · rintro ⟨known, left⟩
    refine ⟨known, fun edge stored => Bool.eq_false_iff.mpr fun touches => ?_⟩
    obtain ⟨before, later, isSplit, undropped⟩ := stored
    have kept : ∀ call ∈ later, ¬call.Forgets id := fun call member forgets =>
      undropped call member (forgets.drops touches)
    obtain ⟨other, -, atOther, removed⟩ := left edge later ⟨⟨before, isSplit⟩, touches, kept⟩
    exact undropped _ removed (Edge.touches_iff.mp atOther)
  · rintro ⟨known, edgeless⟩
    refine ⟨known, ?_⟩
    rintro edge later ⟨⟨before, isSplit⟩, touches, kept⟩
    have dropped : ¬∀ call ∈ later, ¬call.Drops edge := fun undropped =>
      Bool.eq_false_iff.mp (edgeless edge ⟨before, later, isSplit, undropped⟩) touches
    push Not at dropped
    obtain ⟨call, member, drops⟩ := dropped
    obtain ⟨other, differs, atOther, rfl⟩ := (GraphCall.drops_iff (kept call member)).mp drops
    exact ⟨other, differs, atOther, member⟩

namespace UsageGraph

theorem containsVertex_iff {graph : UsageGraph} {id : EntityId} :
    graph.containsVertex id = true ↔ id ∈ graph.vertices := by
  simp [containsVertex]

theorem mem_vertices_apply (graph : UsageGraph) (call : GraphCall) (id : EntityId) :
    id ∈ (graph.apply call).vertices ↔
      (∃ edge, call = .addEdge edge ∧ edge.touches id = true) ∨
        (id ∈ graph.vertices ∧ ¬call.Forgets id) := by
  cases call with
  | addEdge edge =>
    have atEdge : (∃ added, GraphCall.addEdge edge = .addEdge added ∧ added.touches id = true) ↔
        id = edge.source ∨ id = edge.target := by
      simp [Edge.touches_iff, @eq_comm _ id]
    rw [atEdge, apply, mem_vertices_addEdge, or_comm]
    simp only [GraphCall.Forgets, not_false_eq_true, and_true]
  | removeVertex gone =>
    simp [apply, vertices_removeVertex, GraphCall.Forgets, @eq_comm _ gone]
  | clear => simp [apply, empty, GraphCall.Forgets]

theorem mem_vertices_run {calls : List GraphCall} {id : EntityId} :
    id ∈ (run calls).vertices ↔ Known calls id := by
  induction calls using List.reverseRecOn with
  | nil => simp [run, empty, not_known_nil]
  | append_singleton calls call ih => rw [run_concat, mem_vertices_apply, known_concat, ih]

theorem vertices_nodup_addVertex {graph : UsageGraph} (once : graph.vertices.Nodup)
    (id : EntityId) : (graph.addVertex id).vertices.Nodup := by
  unfold addVertex
  split
  next => exact once
  next unknown =>
    rw [containsVertex_iff] at unknown
    exact List.nodup_append.mpr ⟨once, List.nodup_singleton id, by grind⟩

theorem vertices_nodup_run (calls : List GraphCall) : (run calls).vertices.Nodup := by
  induction calls using List.reverseRecOn with
  | nil => exact List.nodup_nil
  | append_singleton calls call ih =>
    rw [run_concat]
    cases call with
    | addEdge edge =>
      rw [apply, vertices_addEdge]
      exact vertices_nodup_addVertex (vertices_nodup_addVertex ih edge.source) edge.target
    | removeVertex id =>
      rw [apply, vertices_removeVertex]
      exact ih.filter _
    | clear => exact List.nodup_nil

/-- Whatever was called, the known entities are listed once each and in increasing order. Known are
those that an edge was added at since they were last forgotten: the ends of all edges, and beyond
them exactly the entities that are deserted. -/
theorem run_vertices_are_ends_or_deserted (calls : List GraphCall) :
    let graph := run calls
    graph.sortedVertices.Pairwise (· < ·) ∧
    graph.vertexCount = graph.sortedVertices.length ∧
    (∀ id, graph.containsVertex id = true ↔ id ∈ graph.sortedVertices) ∧
    (∀ id, graph.containsVertex id = true ↔ Known calls id) ∧
    (∀ id, graph.containsVertex id = true ↔
      (∃ edge ∈ graph.edges, edge.source = id ∨ edge.target = id) ∨ Deserted calls id) ∧
    (∀ id, Deserted calls id → ∀ edge ∈ graph.edges, edge.source ≠ id ∧ edge.target ≠ id) := by
  intro graph
  have known : ∀ id, graph.containsVertex id = true ↔ Known calls id := fun id =>
    containsVertex_iff.trans mem_vertices_run
  have edgeless : ∀ id, Deserted calls id ↔
      Known calls id ∧ ∀ edge ∈ graph.edges, edge.source ≠ id ∧ edge.target ≠ id := by
    intro id
    simp only [deserted_iff, ← mem_edges_run, Bool.eq_false_iff, Ne, Edge.touches_iff, not_or,
      graph]
  refine ⟨increasing_mergeSort (vertices_nodup_run calls), ?_, ?_, known, ?_, ?_⟩
  · exact (List.length_mergeSort _).symm
  · intro id
    rw [containsVertex_iff, sortedVertices, List.mem_mergeSort]
  · intro id
    constructor
    · intro isKnown
      by_contra neither
      push Not at neither
      exact neither.2 ((edgeless id).mpr ⟨(known id).mp isKnown, neither.1⟩)
    · rintro (⟨edge, member, rfl | rfl⟩ | deserted)
      · exact containsVertex_iff.mpr ((anchored_run calls).source_known edge member)
      · exact containsVertex_iff.mpr ((anchored_run calls).target_known edge member)
      · exact (known id).mpr deserted.known
  · intro id deserted
    exact ((edgeless id).mp deserted).2

/-- One entity uses another, which is removed: the first one is listed and has no edge. -/
theorem vertex_outlives_its_edge :
    let graph := run [.addEdge ⟨1, 2, .uses⟩, .removeVertex 2]
    graph.sortedVertices = [1] ∧ graph.containsVertex 1 = true ∧ graph.vertexCount = 1 ∧
      ¬∃ edge ∈ graph.edges, edge.source = 1 ∨ edge.target = 1 :=
  ⟨List.mergeSort_singleton 1, by decide, by decide, by decide⟩

end UsageGraph

end CodeMetrics
