import CodeMetrics.Graph.Basic
import Mathlib.Data.List.Nodup

/-!
Graphs in which every edge is anchored: both of its ends are known, and no edge is stored twice.
Adding edges and removing entities keep a graph so.
-/

namespace CodeMetrics

/-- Entities that are listed once each are strictly increasing when they are sorted. -/
theorem increasing_mergeSort {ids : List EntityId} (once : ids.Nodup) :
    ids.mergeSort.Pairwise (· < ·) := by
  have sorted : ids.mergeSort.Pairwise fun first second => decide (first ≤ second) = true :=
    List.pairwise_mergeSort (fun _ _ _ => by simpa using Nat.le_trans)
      (fun first second => by simpa using Nat.le_total first second) _
  have still : ids.mergeSort.Nodup := (List.mergeSort_perm _ _).nodup_iff.mpr once
  refine sorted.imp₂ ?_ still
  intro first second le differ
  exact Nat.lt_of_le_of_ne (of_decide_eq_true le) differ

namespace UsageGraph

/-- The ends of all edges are known, and no edge is stored twice. -/
structure Anchored (graph : UsageGraph) : Prop where
  source_known : ∀ edge ∈ graph.edges, edge.source ∈ graph.vertices
  target_known : ∀ edge ∈ graph.edges, edge.target ∈ graph.vertices
  edges_nodup : graph.edges.Nodup

theorem anchored_empty : empty.Anchored where
  source_known := fun _ member => nomatch member
  target_known := fun _ member => nomatch member
  edges_nodup := List.nodup_nil

theorem mem_vertices_addVertex {graph : UsageGraph} {id other : EntityId} :
    other ∈ (graph.addVertex id).vertices ↔ other ∈ graph.vertices ∨ other = id := by
  unfold addVertex containsVertex
  by_cases known : id ∈ graph.vertices
  · have same : other = id → other ∈ graph.vertices := fun same => same ▸ known
    simp [known, or_iff_left_of_imp same]
  · simp [known]

theorem vertices_addEdge (graph : UsageGraph) (edge : Edge) :
    (graph.addEdge edge).2.vertices =
      ((graph.addVertex edge.source).addVertex edge.target).vertices := by
  unfold addEdge
  split <;> rfl

theorem mem_vertices_addEdge {graph : UsageGraph} {edge : Edge} {other : EntityId} :
    other ∈ (graph.addEdge edge).2.vertices ↔
      other ∈ graph.vertices ∨ other = edge.source ∨ other = edge.target := by
  rw [vertices_addEdge, mem_vertices_addVertex, mem_vertices_addVertex, or_assoc]

theorem edges_addVertex (graph : UsageGraph) (id : EntityId) :
    (graph.addVertex id).edges = graph.edges := by
  unfold addVertex
  split <;> rfl

theorem edges_addEdge (graph : UsageGraph) (edge : Edge) :
    (graph.addEdge edge).2.edges =
      if edge ∈ graph.edges then graph.edges else graph.edges ++ [edge] := by
  unfold addEdge
  by_cases stored : edge ∈ graph.edges
  · simp [stored, edges_addVertex]
  · simp [stored]

theorem Anchored.addEdge {graph : UsageGraph} (anchored : graph.Anchored) (edge : Edge) :
    (graph.addEdge edge).2.Anchored := by
  have old : ∀ other ∈ (graph.addEdge edge).2.edges, other ∈ graph.edges ∨ other = edge := by
    intro other member
    rw [edges_addEdge] at member
    split at member
    next => exact .inl member
    next => simpa using member
  constructor
  · intro other member
    rw [mem_vertices_addEdge]
    rcases old other member with stored | rfl
    · exact .inl (anchored.source_known other stored)
    · exact .inr (.inl rfl)
  · intro other member
    rw [mem_vertices_addEdge]
    rcases old other member with stored | rfl
    · exact .inl (anchored.target_known other stored)
    · exact .inr (.inr rfl)
  · rw [edges_addEdge]
    split
    next => exact anchored.edges_nodup
    next absent =>
      refine List.nodup_append.mpr ⟨anchored.edges_nodup, List.nodup_singleton _, ?_⟩
      intro stored member added isAdded same
      rw [List.mem_singleton.mp isAdded] at same
      exact absent (same ▸ member)

theorem vertices_removeVertex (graph : UsageGraph) (id : EntityId) :
    (graph.removeVertex id).2.vertices = graph.vertices.filter (· ≠ id) := by
  unfold removeVertex containsVertex
  by_cases known : id ∈ graph.vertices
  · simp [known]
  · have same : graph.vertices.filter (· ≠ id) = graph.vertices := by
      rw [List.filter_eq_self]
      intro other member
      exact decide_eq_true fun isId => known (isId ▸ member)
    simp only [List.contains_eq_mem, known, decide_false, Bool.false_eq_true, if_false, same]

/-- An entity that is not known has no edges either, so removing it changes nothing. -/
theorem Anchored.edges_removeVertex {graph : UsageGraph} (anchored : graph.Anchored)
    (id : EntityId) :
    (graph.removeVertex id).2.edges = graph.edges.filter fun edge => !edge.touches id := by
  unfold removeVertex containsVertex
  by_cases known : id ∈ graph.vertices
  · simp [known]
  · have same : (graph.edges.filter fun edge => !edge.touches id) = graph.edges := by
      rw [List.filter_eq_self]
      intro edge member
      have source : edge.source ≠ id := fun isId =>
        known (isId ▸ anchored.source_known edge member)
      have target : edge.target ≠ id := fun isId =>
        known (isId ▸ anchored.target_known edge member)
      simp [Edge.touches, source, target]
    simp only [List.contains_eq_mem, known, decide_false, Bool.false_eq_true, if_false, same]

theorem Anchored.removeVertex {graph : UsageGraph} (anchored : graph.Anchored) (id : EntityId) :
    (graph.removeVertex id).2.Anchored := by
  constructor
  · intro edge member
    rw [anchored.edges_removeVertex, List.mem_filter] at member
    rw [vertices_removeVertex, List.mem_filter]
    refine ⟨anchored.source_known edge member.1, ?_⟩
    simp only [Edge.touches, Bool.not_or, Bool.and_eq_true] at member
    simpa using member.2.1
  · intro edge member
    rw [anchored.edges_removeVertex, List.mem_filter] at member
    rw [vertices_removeVertex, List.mem_filter]
    refine ⟨anchored.target_known edge member.1, ?_⟩
    simp only [Edge.touches, Bool.not_or, Bool.and_eq_true] at member
    simpa using member.2.2
  · rw [anchored.edges_removeVertex]
    exact anchored.edges_nodup.filter _

def removeVertices (graph : UsageGraph) (ids : List EntityId) : UsageGraph :=
  ids.foldl (fun graph gone => (graph.removeVertex gone).2) graph

theorem Anchored.removeVertices {graph : UsageGraph} (anchored : graph.Anchored)
    (ids : List EntityId) : (graph.removeVertices ids).Anchored := by
  induction ids generalizing graph with
  | nil => exact anchored
  | cons gone rest ih => exact ih (anchored.removeVertex gone)

theorem mem_vertices_removeVertices {graph : UsageGraph} {ids : List EntityId}
    {other : EntityId} :
    other ∈ (graph.removeVertices ids).vertices ↔ other ∈ graph.vertices ∧ other ∉ ids := by
  induction ids generalizing graph with
  | nil => simp [removeVertices]
  | cons gone rest ih =>
    have first : graph.removeVertices (gone :: rest) =
        (graph.removeVertex gone).2.removeVertices rest := rfl
    rw [first, ih, vertices_removeVertex]
    simp only [List.mem_filter, decide_eq_true_eq, List.mem_cons, not_or, and_assoc]

/-- The edges that are left, in their order: those with both ends among the other entities. -/
theorem Anchored.edges_removeVertices {graph : UsageGraph} (anchored : graph.Anchored)
    (ids : List EntityId) :
    (graph.removeVertices ids).edges =
      graph.edges.filter fun edge => edge.source ∉ ids ∧ edge.target ∉ ids := by
  induction ids generalizing graph with
  | nil => simp [UsageGraph.removeVertices]
  | cons gone rest ih =>
    have first : graph.removeVertices (gone :: rest) =
        (graph.removeVertex gone).2.removeVertices rest := rfl
    rw [first, ih (anchored.removeVertex gone), anchored.edges_removeVertex, List.filter_filter]
    apply List.filter_congr
    intro edge _
    simp only [Edge.touches, List.mem_cons, not_or, Bool.not_or, ← decide_not, ← Bool.decide_and]
    exact decide_eq_decide.mpr (by tauto)

end UsageGraph

end CodeMetrics
