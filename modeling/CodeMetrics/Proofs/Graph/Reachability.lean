import CodeMetrics.Graph.Cycle
import Mathlib.Data.Finset.Card
import Mathlib.Data.Finset.SDiff
import Mathlib.Data.List.Dedup
import Mathlib.Logic.Relation

/-!
Reachability along edges. The search adds what is found round by round and stops after a fixed number
of rounds; that number is never too small, because every round but the last finds the target of an
edge that was not found before.
-/

namespace CodeMetrics

def Linked (edges : List Edge) (source target : EntityId) : Prop :=
  ∃ edge ∈ edges, edge.source = source ∧ edge.target = target

def Reaches (edges : List Edge) : EntityId → EntityId → Prop :=
  Relation.ReflTransGen (Linked edges)

theorem mem_successors {edges : List Edge} {ids : List EntityId} {id : EntityId} :
    id ∈ successors edges ids ↔ ∃ source ∈ ids, Linked edges source id := by
  simp only [successors, List.mem_map, List.mem_filter, List.contains_iff_mem]
  constructor
  · rintro ⟨edge, ⟨member, known⟩, target⟩
    exact ⟨edge.source, known, edge, member, rfl, target⟩
  · rintro ⟨source, known, edge, member, rfl, target⟩
    exact ⟨edge, ⟨member, known⟩, target⟩

theorem mem_found {edges : List Edge} {reached : List EntityId} {id : EntityId} :
    id ∈ ((successors edges reached).filter fun id => !reached.contains id).eraseDups ↔
      (∃ source ∈ reached, Linked edges source id) ∧ id ∉ reached := by
  simp [List.mem_eraseDups, List.mem_filter, mem_successors]

theorem mem_reachIn_of_mem {edges : List Edge} {steps : Nat} {reached : List EntityId}
    {id : EntityId} (member : id ∈ reached) : id ∈ reachIn edges steps reached := by
  fun_induction reachIn edges steps reached with
  | case1 reached => exact member
  | case2 reached steps found none => exact member
  | case3 reached steps found some ih => exact ih (List.mem_append_left _ member)

theorem reaches_of_mem_reachIn {edges : List Edge} {steps : Nat} {reached : List EntityId}
    {id : EntityId} (member : id ∈ reachIn edges steps reached) :
    ∃ start ∈ reached, Reaches edges start id := by
  fun_induction reachIn edges steps reached with
  | case1 reached => exact ⟨id, member, .refl⟩
  | case2 reached steps found none => exact ⟨id, member, .refl⟩
  | case3 reached steps found some ih =>
    obtain ⟨middle, known, reaches⟩ := ih member
    rcases List.mem_append.mp known with old | new
    · exact ⟨middle, old, reaches⟩
    · obtain ⟨⟨start, known, link⟩, -⟩ := mem_found.mp new
      exact ⟨start, known, .head link reaches⟩

def unreached (edges : List Edge) (reached : List EntityId) : Finset EntityId :=
  (edges.map Edge.target).toFinset \ reached.toFinset

theorem mem_unreached {edges : List Edge} {reached : List EntityId} {source id : EntityId}
    (link : Linked edges source id) (new : id ∉ reached) : id ∈ unreached edges reached := by
  obtain ⟨edge, member, -, rfl⟩ := link
  simp only [unreached, Finset.mem_sdiff, List.mem_toFinset]
  exact ⟨List.mem_map_of_mem member, new⟩

theorem card_unreached_lt {edges : List Edge} {reached found : List EntityId} {id : EntityId}
    (missing : id ∈ unreached edges reached) (isFound : id ∈ found) :
    (unreached edges (reached ++ found)).card < (unreached edges reached).card := by
  apply Finset.card_lt_card
  refine Finset.ssubset_iff_subset_ne.mpr ⟨?_, ?_⟩
  · apply Finset.sdiff_subset_sdiff subset_rfl
    intro other member
    simp only [List.mem_toFinset, List.mem_append] at member ⊢
    exact .inl member
  · intro same
    rw [← same] at missing
    simp [unreached, isFound] at missing

/-- With enough rounds the search ends in a set that no edge leaves. -/
theorem reachIn_closed {edges : List Edge} {steps : Nat} {reached : List EntityId}
    (enough : (unreached edges reached).card ≤ steps) {source target : EntityId}
    (member : source ∈ reachIn edges steps reached) (link : Linked edges source target) :
    target ∈ reachIn edges steps reached := by
  fun_induction reachIn edges steps reached with
  | case1 reached =>
    by_contra new
    have missing := mem_unreached link new
    rw [Finset.card_eq_zero.mp (Nat.le_zero.mp enough)] at missing
    exact Finset.notMem_empty _ missing
  | case2 reached steps found none =>
    by_contra new
    have isFound : target ∈ found := mem_found.mpr ⟨⟨source, member, link⟩, new⟩
    rw [List.isEmpty_iff.mp none] at isFound
    cases isFound
  | case3 reached steps found some ih =>
    obtain ⟨id, isFound⟩ := List.exists_mem_of_ne_nil found (by simpa using some)
    obtain ⟨⟨start, -, leads⟩, new⟩ := mem_found.mp isFound
    have fewer := card_unreached_lt (mem_unreached leads new) isFound
    exact ih (by omega) member

theorem card_unreached_le (edges : List Edge) (reached : List EntityId) :
    (unreached edges reached).card ≤ edges.length :=
  calc (unreached edges reached).card
      ≤ (edges.map Edge.target).toFinset.card := Finset.card_le_card Finset.sdiff_subset
    _ ≤ (edges.map Edge.target).length := List.toFinset_card_le _
    _ = edges.length := List.length_map _

theorem mem_reachable_iff {edges : List Edge} {source target : EntityId} :
    target ∈ reachable edges source ↔ Reaches edges source target := by
  constructor
  · intro member
    obtain ⟨start, isSource, reaches⟩ := reaches_of_mem_reachIn member
    rwa [List.mem_singleton.mp isSource] at reaches
  · intro reaches
    have enough : (unreached edges [source]).card ≤ edges.length + 1 :=
      (card_unreached_le edges [source]).trans (Nat.le_succ _)
    induction reaches with
    | refl => exact mem_reachIn_of_mem (List.mem_singleton_self source)
    | tail reaches link ih => exact reachIn_closed enough ih link

end CodeMetrics
