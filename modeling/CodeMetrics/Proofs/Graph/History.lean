import CodeMetrics.Proofs.Graph.Anchored
import Mathlib.Data.Set.Card

/-!
Graphs and their histories. Which edges a graph stores, and in which order its answers list them, is
told by the calls that were made alone: an edge is stored when it was added and no later call dropped
it, and its age is counted from the call that put it there.
-/

namespace CodeMetrics

inductive GraphCall where
  | addEdge (edge : Edge)
  | removeVertex (id : EntityId)
  | clear

def GraphCall.Drops (edge : Edge) : GraphCall → Prop
  | .addEdge _ => False
  | .removeVertex id => edge.source = id ∨ edge.target = id
  | .clear => True

/-- An edge was added right after the calls `before`, and no later call dropped it. -/
def AddedAfter (calls : List GraphCall) (edge : Edge) (before : List GraphCall) : Prop :=
  ∃ after, calls = before ++ .addEdge edge :: after ∧ ∀ call ∈ after, ¬call.Drops edge

/-- An edge was added at some time, and no later call dropped it. -/
def Stored (calls : List GraphCall) (edge : Edge) : Prop :=
  ∃ before, AddedAfter calls edge before

/-- An edge was added after `moment` calls, which had not stored it, and no later call dropped it. -/
def EnteredAt (calls : List GraphCall) (edge : Edge) (moment : Nat) : Prop :=
  ∃ before, AddedAfter calls edge before ∧ ¬Stored before edge ∧ before.length = moment

/-- Both edges are stored, and the first one has been so for longer. -/
def Older (calls : List GraphCall) (first second : Edge) : Prop :=
  ∃ early late, early < late ∧ EnteredAt calls first early ∧ EnteredAt calls second late

theorem not_stored_nil (edge : Edge) : ¬Stored [] edge := by
  rintro ⟨before, after, same, -⟩
  simp at same

/-- Where a list with one more call is split: at that call, or before it. -/
theorem concat_eq_split_iff {calls before after : List GraphCall} {call first : GraphCall} :
    calls ++ [call] = before ++ first :: after ↔
      (calls = before ∧ call = first ∧ after = []) ∨
        ∃ rest, after = rest ++ [call] ∧ calls = before ++ first :: rest := by
  constructor
  · intro same
    rcases List.eq_nil_or_concat after with rfl | ⟨rest, last, rfl⟩
    · obtain ⟨start, final⟩ := List.append_inj' same rfl
      exact .inl ⟨start, List.singleton_inj.mp final, rfl⟩
    · rw [List.concat_eq_append, ← List.cons_append, ← List.append_assoc] at same
      obtain ⟨start, final⟩ := List.append_inj' same rfl
      cases final
      exact .inr ⟨rest, List.concat_eq_append, start⟩
  · rintro (⟨rfl, rfl, rfl⟩ | ⟨rest, rfl, rfl⟩)
    · rfl
    · simp

/-- One more call: it is the one that adds the edge, or the edge was there and outlives it. -/
theorem addedAfter_concat {calls before : List GraphCall} {call : GraphCall} {edge : Edge} :
    AddedAfter (calls ++ [call]) edge before ↔
      (call = .addEdge edge ∧ calls = before) ∨
        (AddedAfter calls edge before ∧ ¬call.Drops edge) := by
  constructor
  · rintro ⟨after, same, kept⟩
    rcases concat_eq_split_iff.mp same with ⟨start, isAdd, -⟩ | ⟨rest, rfl, start⟩
    · exact .inl ⟨isAdd, start⟩
    · exact .inr ⟨⟨rest, start, fun other member => kept other (by simp [member])⟩,
        kept call (by simp)⟩
  · rintro (⟨rfl, rfl⟩ | ⟨⟨rest, rfl, kept⟩, keeps⟩)
    · exact ⟨[], rfl, fun _ member => nomatch member⟩
    · refine ⟨rest ++ [call], by simp, ?_⟩
      intro other member
      rcases List.mem_append.mp member with early | last
      · exact kept other early
      · rwa [List.mem_singleton.mp last]

theorem stored_concat {calls : List GraphCall} {call : GraphCall} {edge : Edge} :
    Stored (calls ++ [call]) edge ↔
      call = .addEdge edge ∨ (Stored calls edge ∧ ¬call.Drops edge) := by
  simp [Stored, addedAfter_concat, exists_or]

theorem enteredAt_concat {calls : List GraphCall} {call : GraphCall} {edge : Edge} {moment : Nat} :
    EnteredAt (calls ++ [call]) edge moment ↔
      (call = .addEdge edge ∧ ¬Stored calls edge ∧ calls.length = moment) ∨
        (EnteredAt calls edge moment ∧ ¬call.Drops edge) := by
  constructor
  · rintro ⟨before, added, absent, rfl⟩
    rcases addedAfter_concat.mp added with ⟨isAdd, rfl⟩ | ⟨earlier, keeps⟩
    · exact .inl ⟨isAdd, absent, rfl⟩
    · exact .inr ⟨⟨before, earlier, absent, rfl⟩, keeps⟩
  · rintro (⟨isAdd, absent, rfl⟩ | ⟨⟨before, earlier, absent, rfl⟩, keeps⟩)
    · exact ⟨calls, addedAfter_concat.mpr (.inl ⟨isAdd, rfl⟩), absent, rfl⟩
    · exact ⟨before, addedAfter_concat.mpr (.inr ⟨earlier, keeps⟩), absent, rfl⟩

theorem EnteredAt.lt_length {calls : List GraphCall} {edge : Edge} {moment : Nat}
    (entered : EnteredAt calls edge moment) : moment < calls.length := by
  obtain ⟨before, ⟨after, rfl, -⟩, -, rfl⟩ := entered
  simp

theorem EnteredAt.stored {calls : List GraphCall} {edge : Edge} {moment : Nat}
    (entered : EnteredAt calls edge moment) : Stored calls edge := by
  obtain ⟨before, added, -⟩ := entered
  exact ⟨before, added⟩

theorem Stored.entered {calls : List GraphCall} {edge : Edge} (stored : Stored calls edge) :
    ∃ moment, EnteredAt calls edge moment := by
  induction calls using List.reverseRecOn with
  | nil => exact absurd stored (not_stored_nil edge)
  | append_singleton calls call ih =>
    by_cases already : Stored calls edge ∧ ¬call.Drops edge
    · obtain ⟨moment, entered⟩ := ih already.1
      exact ⟨moment, enteredAt_concat.mpr (.inr ⟨entered, already.2⟩)⟩
    · have isAdd : call = .addEdge edge := (stored_concat.mp stored).resolve_right already
      have absent : ¬Stored calls edge := fun stored => already ⟨stored, isAdd ▸ id⟩
      exact ⟨calls.length, enteredAt_concat.mpr (.inl ⟨isAdd, absent, rfl⟩)⟩

theorem EnteredAt.unique {calls : List GraphCall} {edge : Edge} {moment other : Nat}
    (entered : EnteredAt calls edge moment) (again : EnteredAt calls edge other) :
    moment = other := by
  induction calls using List.reverseRecOn with
  | nil => exact absurd entered.lt_length (Nat.not_lt_zero _)
  | append_singleton calls call ih =>
    rcases enteredAt_concat.mp entered with ⟨-, absent, atEnd⟩ | ⟨earlier, -⟩ <;>
      rcases enteredAt_concat.mp again with ⟨-, absent', atEnd'⟩ | ⟨earlier', -⟩
    · exact atEnd.symm.trans atEnd'
    · exact absurd earlier'.stored absent
    · exact absurd earlier.stored absent'
    · exact ih earlier earlier'

/-- A call that drops neither of two edges keeps their order. -/
theorem Older.concat {calls : List GraphCall} {first second : Edge} {call : GraphCall}
    (older : Older calls first second) (keepsFirst : ¬call.Drops first)
    (keepsSecond : ¬call.Drops second) : Older (calls ++ [call]) first second := by
  obtain ⟨early, late, before, entered, enteredLater⟩ := older
  exact ⟨early, late, before, enteredAt_concat.mpr (.inr ⟨entered, keepsFirst⟩),
    enteredAt_concat.mpr (.inr ⟨enteredLater, keepsSecond⟩)⟩

/-- An edge that is added now is younger than all the others. -/
theorem older_concat_new {calls : List GraphCall} {old new : Edge} (stored : Stored calls old)
    (absent : ¬Stored calls new) : Older (calls ++ [.addEdge new]) old new := by
  obtain ⟨moment, entered⟩ := stored.entered
  exact ⟨moment, calls.length, entered.lt_length, enteredAt_concat.mpr (.inr ⟨entered, id⟩),
    enteredAt_concat.mpr (.inl ⟨rfl, absent, rfl⟩)⟩

namespace UsageGraph

def apply (graph : UsageGraph) : GraphCall → UsageGraph
  | .addEdge edge => (graph.addEdge edge).2
  | .removeVertex id => (graph.removeVertex id).2
  | .clear => empty

def run (calls : List GraphCall) : UsageGraph :=
  calls.foldl apply empty

theorem run_concat (calls : List GraphCall) (call : GraphCall) :
    run (calls ++ [call]) = (run calls).apply call := by
  simp [run]

theorem anchored_run (calls : List GraphCall) : (run calls).Anchored := by
  induction calls using List.reverseRecOn with
  | nil => exact anchored_empty
  | append_singleton calls call ih =>
    rw [run_concat]
    cases call with
    | addEdge edge => exact ih.addEdge edge
    | removeVertex id => exact ih.removeVertex id
    | clear => exact anchored_empty

theorem mem_edges_apply {graph : UsageGraph} (anchored : graph.Anchored) (call : GraphCall)
    (edge : Edge) :
    edge ∈ (graph.apply call).edges ↔
      call = .addEdge edge ∨ (edge ∈ graph.edges ∧ ¬call.Drops edge) := by
  cases call with
  | addEdge added =>
    simp only [apply, edges_addEdge, GraphCall.addEdge.injEq, GraphCall.Drops, not_false_eq_true,
      and_true]
    split
    next stored =>
      have same : added = edge → edge ∈ graph.edges := fun same => same ▸ stored
      rw [or_iff_right_of_imp same]
    next => rw [List.mem_append, List.mem_singleton, or_comm, eq_comm]
  | removeVertex id =>
    simp [apply, anchored.edges_removeVertex, GraphCall.Drops, Edge.touches]
  | clear => simp [apply, empty, GraphCall.Drops]

theorem mem_edges_run {calls : List GraphCall} {edge : Edge} :
    edge ∈ (run calls).edges ↔ Stored calls edge := by
  induction calls using List.reverseRecOn with
  | nil => simp [run, empty, not_stored_nil]
  | append_singleton calls call ih =>
    rw [run_concat, mem_edges_apply (anchored_run calls), stored_concat, ih]

/-- A call drops edges, or puts one behind all others: what is left keeps its order. -/
theorem edges_run_ordered (calls : List GraphCall) :
    (run calls).edges.Pairwise (Older calls) := by
  induction calls using List.reverseRecOn with
  | nil => exact List.Pairwise.nil
  | append_singleton calls call ih =>
    rw [run_concat]
    cases call with
    | addEdge edge =>
      have kept : (run calls).edges.Pairwise (Older (calls ++ [.addEdge edge])) :=
        ih.imp fun older => older.concat id id
      rw [apply, edges_addEdge]
      split
      next => exact kept
      next absent =>
        refine List.pairwise_append.mpr ⟨kept, List.pairwise_singleton _ _, ?_⟩
        intro old member new isNew
        rw [List.mem_singleton.mp isNew]
        have new : ¬Stored calls edge := fun stored => absent (mem_edges_run.mpr stored)
        exact older_concat_new (mem_edges_run.mp member) new
    | removeVertex id =>
      have outlives : ∀ edge ∈ ((run calls).removeVertex id).2.edges,
          ¬(GraphCall.removeVertex id).Drops edge := fun edge member =>
        ((mem_edges_apply (anchored_run calls) (.removeVertex id) edge).mp member).resolve_left
          nofun |>.2
      have left : ((run calls).removeVertex id).2.edges.Pairwise (Older calls) := by
        rw [(anchored_run calls).edges_removeVertex]
        exact ih.filter _
      exact left.imp_of_mem fun first second older =>
        older.concat (outlives _ first) (outlives _ second)
    | clear => exact List.Pairwise.nil

end UsageGraph

/-- A list of exactly the stored edges of some kind, each of them once and in some order. -/
structure Lists (calls : List GraphCall) (order : Edge → Edge → Prop) (wanted : Edge → Prop)
    (edges : List Edge) : Prop where
  mem_iff : ∀ edge, edge ∈ edges ↔ Stored calls edge ∧ wanted edge
  nodup : edges.Nodup
  ordered : edges.Pairwise order

namespace Lists

variable {calls : List GraphCall} {order : Edge → Edge → Prop} {wanted : Edge → Prop}
  {edges : List Edge}

theorem filter (lists : Lists calls order wanted edges) {also : Edge → Prop}
    {test : Edge → Bool} (tests : ∀ edge, test edge = true ↔ also edge) :
    Lists calls order (fun edge => wanted edge ∧ also edge) (edges.filter test) where
  mem_iff := fun edge => by rw [List.mem_filter, lists.mem_iff, tests, and_assoc]
  nodup := lists.nodup.filter _
  ordered := lists.ordered.filter _

theorem reverse (lists : Lists calls order wanted edges) :
    Lists calls (fun first second => order second first) wanted edges.reverse where
  mem_iff := fun edge => by rw [List.mem_reverse, lists.mem_iff]
  nodup := List.nodup_reverse.mpr lists.nodup
  ordered := List.pairwise_reverse.mpr lists.ordered

theorem congr (lists : Lists calls order wanted edges) {kind : Edge → Prop}
    (same : ∀ edge, wanted edge ↔ kind edge) : Lists calls order kind edges where
  mem_iff := fun edge => by rw [lists.mem_iff, same]
  nodup := lists.nodup
  ordered := lists.ordered

/-- The list has one entry exactly when one edge is stored. -/
theorem eq_singleton_iff (lists : Lists calls order wanted edges) (edge : Edge) :
    edges = [edge] ↔ ∀ other, Stored calls other ∧ wanted other ↔ other = edge := by
  rw [← List.perm_singleton, List.perm_ext_iff_of_nodup lists.nodup (List.nodup_singleton edge)]
  simp only [lists.mem_iff, List.mem_singleton]

theorem length_eq_ncard (lists : Lists calls order wanted edges) :
    edges.length = {edge | Stored calls edge ∧ wanted edge}.ncard := by
  have same : {edge | Stored calls edge ∧ wanted edge} = (edges.toFinset : Set Edge) := by
    ext edge
    simp [lists.mem_iff]
  rw [same, Set.ncard_coe_finset, List.toFinset_card_of_nodup lists.nodup]

end Lists

namespace UsageGraph

theorem lists_edges (calls : List GraphCall) :
    Lists calls (Older calls) (fun _ => True) (run calls).edges where
  mem_iff := fun edge => by rw [mem_edges_run, and_true]
  nodup := (anchored_run calls).edges_nodup
  ordered := edges_run_ordered calls

theorem addVertex_known {graph : UsageGraph} {id : EntityId} (known : id ∈ graph.vertices) :
    graph.addVertex id = graph := by
  simp [addVertex, containsVertex, known]

theorem Anchored.addEdge_stored {graph : UsageGraph} (anchored : graph.Anchored) {edge : Edge}
    (stored : edge ∈ graph.edges) : graph.addEdge edge = (false, graph) := by
  have source := addVertex_known (anchored.source_known edge stored)
  have target := addVertex_known (anchored.target_known edge stored)
  simp [UsageGraph.addEdge, stored, source, target]

theorem addEdge_isNew (graph : UsageGraph) (edge : Edge) :
    (graph.addEdge edge).1 = true ↔ edge ∉ graph.edges := by
  unfold addEdge
  by_cases stored : edge ∈ graph.edges <;> simp [stored]

/-- The stored edges that pass a test, oldest first. -/
theorem lists_filter (calls : List GraphCall) {wanted : Edge → Prop} {test : Edge → Bool}
    (tests : ∀ edge, test edge = true ↔ wanted edge) :
    Lists calls (Older calls) wanted ((run calls).edges.filter test) :=
  ((lists_edges calls).filter tests).congr fun _ => by rw [true_and]

theorem lists_edgesBetween (calls : List GraphCall) (source target : EntityId) :
    Lists calls (Older calls) (fun edge => edge.source = source ∧ edge.target = target)
      ((run calls).edgesBetween source target) :=
  lists_filter calls fun edge => by simp

theorem edge?_eq_some_iff {graph : UsageGraph} {source target : EntityId} {edge : Edge} :
    graph.edge? source target = some edge ↔ graph.edgesBetween source target = [edge] := by
  unfold edge?
  split
  next only single => simp [single]
  next several =>
    constructor
    · nofun
    · intro single
      exact absurd single (several edge)

theorem containsEdge_iff {calls : List GraphCall} {source target : EntityId} :
    (run calls).containsEdge source target = true ↔
      ∃ usage, Stored calls ⟨source, target, usage⟩ := by
  simp only [containsEdge, List.any_eq_true, mem_edges_run, Bool.and_eq_true, decide_eq_true_eq]
  constructor
  · rintro ⟨⟨_, _, usage⟩, stored, rfl, rfl⟩
    exact ⟨usage, stored⟩
  · rintro ⟨usage, stored⟩
    exact ⟨_, stored, rfl, rfl⟩

theorem lists_outgoing (calls : List GraphCall) (id : EntityId) :
    Lists calls (fun first second => Older calls second first) (fun edge => edge.source = id)
      ((run calls).outgoing id) :=
  (lists_filter calls fun edge => by simp).reverse

theorem lists_incoming (calls : List GraphCall) (id : EntityId) :
    Lists calls (fun first second => Older calls second first) (fun edge => edge.target = id)
      ((run calls).incoming id) :=
  (lists_filter calls fun edge => by simp).reverse

/-- An edge from an entity to itself is among those that leave it and among those that reach it;
the second listing leaves it out. -/
theorem lists_incident (calls : List GraphCall) (id : EntityId) :
    Lists calls (fun _ _ => True) (fun edge => edge.source = id ∨ edge.target = id)
      ((run calls).incident id) := by
  have outgoing := lists_outgoing calls id
  have arriving : Lists calls _ (fun edge => edge.target = id ∧ edge.source ≠ edge.target)
      (((run calls).incoming id).filter fun edge => edge.source ≠ edge.target) :=
    (lists_incoming calls id).filter fun edge => by simp
  constructor
  · intro edge
    rw [incident, List.mem_append, outgoing.mem_iff, arriving.mem_iff]
    grind
  · refine List.nodup_append.mpr ⟨outgoing.nodup, arriving.nodup, ?_⟩
    rintro edge leaves _ arrives rfl
    obtain ⟨-, source⟩ := (outgoing.mem_iff edge).mp leaves
    obtain ⟨-, target, differ⟩ := (arriving.mem_iff edge).mp arrives
    exact differ (source.trans target.symm)
  · exact List.pairwise_of_forall fun _ _ => trivial

/-- Whatever was called, the edges that are stored are the ones that were added since the graph was
last cleared and since either of their ends was last removed. All answers agree with them: the
edges between two entities come oldest first, those at one entity newest first. -/
theorem run_refines_edge_history (calls : List GraphCall) :
    let graph := run calls
    let oldestFirst := Lists calls (Older calls)
    let newestFirst := Lists calls fun first second => Older calls second first
    let inAnyOrder := Lists calls fun _ _ => True
    oldestFirst (fun _ => True) graph.edges ∧
    (∀ edge, Stored calls edge → ∃! moment, EnteredAt calls edge moment) ∧
    (∀ edge, ((graph.addEdge edge).1 = true ↔ ¬Stored calls edge) ∧
      (Stored calls edge → (graph.addEdge edge).2 = graph)) ∧
    (∀ source target,
      (graph.containsEdge source target = true ↔ ∃ usage, Stored calls ⟨source, target, usage⟩) ∧
      oldestFirst (fun edge => edge.source = source ∧ edge.target = target)
        (graph.edgesBetween source target) ∧
      ∀ edge, graph.edge? source target = some edge ↔
        ∀ other, Stored calls other ∧ other.source = source ∧ other.target = target ↔
          other = edge) ∧
    (∀ id,
      newestFirst (fun edge => edge.source = id) (graph.outgoing id) ∧
      newestFirst (fun edge => edge.target = id) (graph.incoming id) ∧
      inAnyOrder (fun edge => edge.source = id ∨ edge.target = id) (graph.incident id)) ∧
    (∀ usage, inAnyOrder (fun edge => edge.usage = usage) (graph.edgesWithUsage usage)) ∧
    graph.edgeCount = {edge | Stored calls edge}.ncard := by
  intro graph oldestFirst newestFirst inAnyOrder
  refine ⟨lists_edges calls, ?_, ?_, ?_, ?_, ?_, ?_⟩
  · intro edge stored
    obtain ⟨moment, entered⟩ := stored.entered
    exact ⟨moment, entered, fun other again => again.unique entered⟩
  · intro edge
    refine ⟨(addEdge_isNew graph edge).trans (not_congr mem_edges_run), ?_⟩
    intro stored
    rw [(anchored_run calls).addEdge_stored (mem_edges_run.mpr stored)]
  · intro source target
    refine ⟨containsEdge_iff, lists_edgesBetween calls source target, ?_⟩
    intro edge
    rw [edge?_eq_some_iff, (lists_edgesBetween calls source target).eq_singleton_iff]
  · intro id
    exact ⟨lists_outgoing calls id, lists_incoming calls id, lists_incident calls id⟩
  · intro usage
    have oldest : Lists calls (Older calls) (fun edge => edge.usage = usage)
        (graph.edgesWithUsage usage) := lists_filter calls fun edge => by simp
    exact ⟨oldest.mem_iff, oldest.nodup, List.pairwise_of_forall fun _ _ => trivial⟩
  · simpa [edgeCount] using (lists_edges calls).length_eq_ncard

end UsageGraph

end CodeMetrics
