import CodeMetrics.Proofs.Graph.Anchored
import CodeMetrics.Proofs.Graph.Reachability
import Mathlib.Data.List.Nodup
import Mathlib.Data.List.Sort

/-!
Cycles are the classes of entities that reach each other. Each class is found once, at its smallest
entity, and the order of the classes follows from the classes alone; so does the whole answer, which
therefore does not depend on how the graph came about.
-/

namespace CodeMetrics

def Mutual (edges : List Edge) (first second : EntityId) : Prop :=
  Reaches edges first second ∧ Reaches edges second first

theorem Mutual.refl (edges : List Edge) (id : EntityId) : Mutual edges id id :=
  ⟨.refl, .refl⟩

theorem Mutual.symm {edges : List Edge} {first second : EntityId}
    (joined : Mutual edges first second) : Mutual edges second first :=
  ⟨joined.2, joined.1⟩

theorem Mutual.trans {edges : List Edge} {first second third : EntityId}
    (joined : Mutual edges first second) (further : Mutual edges second third) :
    Mutual edges first third :=
  ⟨joined.1.trans further.1, further.2.trans joined.2⟩

/-- All entities that reach each other with one of them, in increasing order. -/
structure IsClass (edges : List Edge) (ids : List EntityId) : Prop where
  increasing : ids.Pairwise (· < ·)
  complete : ∃ id, ∀ other, other ∈ ids ↔ Mutual edges id other

/-- Any member of a class stands for it. -/
theorem IsClass.mem_iff {edges : List Edge} {ids : List EntityId} (isClass : IsClass edges ids)
    {id : EntityId} (member : id ∈ ids) (other : EntityId) :
    other ∈ ids ↔ Mutual edges id other := by
  obtain ⟨origin, complete⟩ := isClass.complete
  have joined := (complete id).mp member
  rw [complete]
  exact ⟨joined.symm.trans, joined.trans⟩

theorem nodup_eraseDups (ids : List EntityId) : ids.eraseDups.Nodup := by
  induction length : ids.length using Nat.strong_induction_on generalizing ids with
  | _ bound ih =>
    cases ids with
    | nil => simp
    | cons id rest =>
      rw [List.eraseDups_cons, List.nodup_cons]
      refine ⟨by simp [List.mem_eraseDups], ih _ ?_ _ rfl⟩
      have shorter := List.length_filter_le (fun other => !other == id) rest
      rw [List.length_cons] at length
      omega

theorem mem_endpoints {edges : List Edge} {id : EntityId} :
    id ∈ endpoints edges ↔ ∃ edge ∈ edges, edge.source = id ∨ edge.target = id := by
  simp [endpoints, List.mem_mergeSort, List.mem_eraseDups, eq_comm]

theorem endpoints_increasing (edges : List Edge) : (endpoints edges).Pairwise (· < ·) :=
  increasing_mergeSort (nodup_eraseDups _)

/-- An entity that reaches another one has an edge. -/
theorem Mutual.mem_endpoints {edges : List Edge} {id other : EntityId}
    (joined : Mutual edges id other) (differ : id ≠ other) : id ∈ endpoints edges := by
  rcases Relation.ReflTransGen.cases_head joined.1 with same | ⟨next, ⟨edge, member, source, -⟩, -⟩
  · exact absurd same differ
  · exact CodeMetrics.mem_endpoints.mpr ⟨edge, member, .inl source⟩

theorem mem_component {edges : List Edge} {id other : EntityId} :
    other ∈ component edges id ↔ other ∈ endpoints edges ∧ Mutual edges id other := by
  simp [component, mem_reachable_iff, Mutual]

theorem component_increasing (edges : List Edge) (id : EntityId) :
    (component edges id).Pairwise (· < ·) :=
  (endpoints_increasing edges).filter _

theorem isClass_component {edges : List Edge} {id : EntityId} (known : id ∈ endpoints edges) :
    IsClass edges (component edges id) where
  increasing := component_increasing edges id
  complete := by
    refine ⟨id, fun other => mem_component.trans ⟨And.right, fun joined => ⟨?_, joined⟩⟩⟩
    by_cases same : other = id
    · exact same ▸ known
    · exact joined.symm.mem_endpoints same

theorem exists_other {ids : List EntityId} (increasing : ids.Pairwise (· < ·))
    (several : 1 < ids.length) (id : EntityId) : ∃ other ∈ ids, id ≠ other := by
  match ids, several with
  | first :: second :: rest, _ =>
    have less : first < second := List.rel_of_pairwise_cons increasing (List.mem_cons_self ..)
    by_cases same : id = first
    · exact ⟨second, by simp, same ▸ Nat.ne_of_lt less⟩
    · exact ⟨first, by simp, same⟩

/-- A class with at least two entities is the component of each of them. -/
theorem IsClass.eq_component {edges : List Edge} {ids : List EntityId}
    (isClass : IsClass edges ids) (several : 1 < ids.length) {id : EntityId} (member : id ∈ ids) :
    id ∈ endpoints edges ∧ component edges id = ids := by
  obtain ⟨other, isOther, differ⟩ := exists_other isClass.increasing several id
  have joined := (isClass.mem_iff member other).mp isOther
  have known : id ∈ endpoints edges := joined.mem_endpoints differ
  have self : id ∈ component edges id := mem_component.mpr ⟨known, .refl edges id⟩
  refine ⟨known, (component_increasing edges id).eq_of_mem_iff isClass.increasing ?_⟩
  intro entity
  rw [isClass.mem_iff member, (isClass_component known).mem_iff self]

def groups (edges : List Edge) : List (List EntityId) :=
  (endpoints edges).filterMap fun id =>
    let group := component edges id
    if group.head? = some id && group.length > 1 then some group else none

theorem group_eq_some_iff {edges : List Edge} {id : EntityId} {ids : List EntityId} :
    (let group := component edges id
      if group.head? = some id && group.length > 1 then some group else none) = some ids ↔
      component edges id = ids ∧ ids.head? = some id ∧ 1 < ids.length := by
  grind

theorem mem_groups {edges : List Edge} {ids : List EntityId} :
    ids ∈ groups edges ↔ IsClass edges ids ∧ 1 < ids.length := by
  simp only [groups, List.mem_filterMap, group_eq_some_iff]
  constructor
  · rintro ⟨id, known, rfl, -, several⟩
    exact ⟨isClass_component known, several⟩
  · rintro ⟨isClass, several⟩
    obtain ⟨id, rest, rfl⟩ := List.exists_cons_of_length_pos (Nat.zero_lt_of_lt several)
    obtain ⟨known, same⟩ := isClass.eq_component several List.mem_cons_self
    exact ⟨id, known, same, rfl, several⟩

/-- Classes differ in their smallest entities already. -/
theorem groups_increasing (edges : List Edge) : (groups edges).Pairwise (· < ·) := by
  rw [groups, List.pairwise_filterMap]
  refine (endpoints_increasing edges).imp ?_
  intro id other less ids isGroup others isOther
  obtain ⟨-, least, -⟩ := group_eq_some_iff.mp isGroup
  obtain ⟨-, leastOther, -⟩ := group_eq_some_iff.mp isOther
  obtain ⟨rest, rfl⟩ := List.head?_eq_some_iff.mp least
  obtain ⟨restOther, rfl⟩ := List.head?_eq_some_iff.mp leastOther
  exact List.cons_lt_cons_iff.mpr (.inl less)

/-- Larger classes come first, and classes of one size by their entities. -/
def Precedes (first second : List EntityId) : Prop :=
  second.length < first.length ∨ first.length = second.length ∧ first < second

theorem Precedes.asymm {first second : List EntityId} (precedes : Precedes first second) :
    ¬Precedes second first := by
  rintro (larger | ⟨same, less⟩)
  · rcases precedes with smaller | ⟨same, -⟩ <;> omega
  · rcases precedes with smaller | ⟨-, less'⟩
    · omega
    · exact List.lt_asymm less less'

instance : Std.Asymm Precedes :=
  ⟨fun _ _ => Precedes.asymm⟩

def bySize (first second : List EntityId) : Bool :=
  second.length ≤ first.length

theorem bySize_trans (a b c : List EntityId) (larger : bySize a b = true)
    (largest : bySize b c = true) : bySize a c = true := by
  simp only [bySize, decide_eq_true_eq] at larger largest ⊢
  omega

theorem bySize_total (a b : List EntityId) : (bySize a b || bySize b a) = true := by
  simp only [bySize, Bool.or_eq_true, decide_eq_true_eq]
  omega

/-- Sorting by size is stable: the classes of one size stay as they were. -/
theorem filter_mergeSort_bySize (classes : List (List EntityId)) (size : Nat) :
    ((classes.mergeSort bySize).filter fun ids => ids.length = size) =
      classes.filter fun ids => ids.length = size := by
  have alike : (classes.filter fun ids => ids.length = size).Pairwise
      fun first second => bySize first second = true := by
    refine List.pairwise_of_forall_mem_list fun first member second member' => ?_
    have sameSize := (List.mem_filter.mp member).2
    have sameSize' := (List.mem_filter.mp member').2
    simp only [decide_eq_true_eq] at sameSize sameSize'
    simp [bySize, sameSize, sameSize']
  -- What is in order already stays a sublist, and there is no room for anything else.
  have kept := (List.sublist_mergeSort bySize_trans bySize_total alike
    List.filter_sublist).filter fun ids => ids.length = size
  rw [List.filter_filter] at kept
  simp only [Bool.and_self] at kept
  have count := ((List.mergeSort_perm classes bySize).filter fun ids => ids.length = size).length_eq
  exact (kept.eq_of_length count.symm).symm

theorem mergeSort_bySize_ordered {classes : List (List EntityId)}
    (increasing : classes.Pairwise (· < ·)) :
    (classes.mergeSort bySize).Pairwise Precedes := by
  have sorted := List.pairwise_mergeSort bySize_trans bySize_total classes
  rw [List.pairwise_iff_forall_sublist] at sorted increasing ⊢
  intro first second pair
  have size : second.length ≤ first.length := of_decide_eq_true (sorted pair)
  rcases Nat.lt_or_eq_of_le size with smaller | same
  · exact .inl smaller
  · have alike := pair.filter fun ids => ids.length = first.length
    rw [filter_mergeSort_bySize] at alike
    have old : [first, second].Sublist classes := by
      simpa [same] using alike.trans List.filter_sublist
    exact .inr ⟨same.symm, increasing old⟩

theorem cycles_eq (graph : UsageGraph) (usages : List Usage) :
    graph.cycles usages = (groups (graph.edgesAmong usages)).mergeSort bySize :=
  rfl

theorem cycles_ordered (graph : UsageGraph) (usages : List Usage) :
    (graph.cycles usages).Pairwise Precedes := by
  rw [cycles_eq]
  exact mergeSort_bySize_ordered (groups_increasing _)

namespace UsageGraph

/-- An edge leads from one entity to another, and has one of the usages, if any are given. -/
def Leads (graph : UsageGraph) (usages : List Usage) (source target : EntityId) : Prop :=
  ∃ edge ∈ graph.edges, (usages = [] ∨ edge.usage ∈ usages) ∧ edge.source = source ∧
    edge.target = target

theorem linked_edgesAmong (graph : UsageGraph) (usages : List Usage) :
    Linked (graph.edgesAmong usages) = graph.Leads usages := by
  funext source target
  simp [Linked, Leads, edgesAmong, List.mem_filter, and_assoc]

/-- Graphs with the same edges lead from the same entities to the same entities. -/
theorem leads_congr {graph other : UsageGraph}
    (same : ∀ edge, edge ∈ other.edges ↔ edge ∈ graph.edges) (usages : List Usage) :
    other.Leads usages = graph.Leads usages := by
  funext source target
  simp [Leads, same]

theorem mem_cycles_iff {graph : UsageGraph} {usages : List Usage} {ids : List EntityId} :
    ids ∈ graph.cycles usages ↔
      ids.Pairwise (· < ·) ∧ 2 ≤ ids.length ∧ ∃ id, ∀ other, other ∈ ids ↔
        Relation.ReflTransGen (graph.Leads usages) id other ∧
          Relation.ReflTransGen (graph.Leads usages) other id := by
  rw [cycles_eq, List.mem_mergeSort, mem_groups, ← linked_edgesAmong]
  constructor
  · rintro ⟨⟨increasing, complete⟩, several⟩
    exact ⟨increasing, several, complete⟩
  · rintro ⟨increasing, several, complete⟩
    exact ⟨⟨increasing, complete⟩, several⟩

/-- The cycles along some usages are exactly the classes of at least two entities that reach each
other there, each in increasing order and given once, larger classes first and those of one size by
their entities. Hence graphs with the same edges have the same cycles. -/
theorem cycles_eq_mutual_classes (graph : UsageGraph) (usages : List Usage) :
    let reaches := Relation.ReflTransGen (graph.Leads usages)
    let cycles := graph.cycles usages
    (∀ ids, ids ∈ cycles ↔ ids.Pairwise (· < ·) ∧ 2 ≤ ids.length ∧
      ∃ id, ∀ other, other ∈ ids ↔ reaches id other ∧ reaches other id) ∧
    cycles.Nodup ∧
    (cycles.Pairwise fun first second => second.length < first.length ∨
      first.length = second.length ∧ first < second) ∧
    ∀ other : UsageGraph, (∀ edge, edge ∈ other.edges ↔ edge ∈ graph.edges) →
      other.cycles usages = cycles := by
  intro reaches cycles
  have ordered : cycles.Pairwise Precedes := cycles_ordered graph usages
  refine ⟨fun ids => mem_cycles_iff, ordered.nodup, ordered, ?_⟩
  intro other same
  apply (cycles_ordered other usages).eq_of_mem_iff ordered
  intro ids
  rw [mem_cycles_iff, mem_cycles_iff, leads_congr same]

end UsageGraph

end CodeMetrics
