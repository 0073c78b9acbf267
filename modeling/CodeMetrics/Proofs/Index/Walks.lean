import CodeMetrics.Index.Query
import CodeMetrics.Proofs.Index.Tree
import Mathlib.Data.List.Chain

/-!
What the walks through an entity tree come to. The way up follows the parents to the project; the
two walks down list a subtree, each entity before or after the ones below it. All of them tell the
same relation between entities, and none of them is cut short by the bound on its steps.
-/

namespace CodeMetrics.EntityIndex

def parentOf? (index : EntityIndex) (id : EntityId) : Option EntityId :=
  (index.get? id).bind Entity.parent?

def Under (index : EntityIndex) (top id : EntityId) : Prop :=
  index.Within top id ∧ id ≠ top

/-- A list that leads from an entity to the project by one parent after the other. -/
structure WayUp (index : EntityIndex) (id : EntityId) (ids : List EntityId) : Prop where
  linked : (id :: ids).IsChain fun below above => index.parentOf? below = some above
  nodup : (id :: ids).Nodup
  ends : (id :: ids).getLast? = some root

/-- Two children of one entity come in their order, and the entities lie in their subtrees. -/
def Earlier (index : EntityIndex) (first second : EntityId) : Prop :=
  ∃ above entity older younger, index.get? above = some entity ∧
    older ∈ entity.children ∧ younger ∈ entity.children ∧ older < younger ∧
    index.Within older first ∧ index.Within younger second

/-- A list of a subtree: every entity of it once, an entity and the ones below it as `order` says,
and the subtrees of siblings one after the other, the older sibling's first. -/
structure Walks (index : EntityIndex) (top : EntityId) (order : EntityId → EntityId → Prop)
    (ids : List EntityId) : Prop where
  mem_iff : ∀ id, id ∈ ids ↔ index.Within top id
  nodup : ids.Nodup
  ordered : ids.Pairwise fun first second => order first second ∨ index.Earlier first second

def InPreOrder (index : EntityIndex) (top : EntityId) : List EntityId → Prop :=
  index.Walks top fun first second => index.Under first second

def InPostOrder (index : EntityIndex) (top : EntityId) : List EntityId → Prop :=
  index.Walks top fun first second => index.Under second first

variable {index : EntityIndex} {id top above parent : EntityId} {entity : Entity}

/-! The way up. -/

theorem parentOf?_eq_some_iff (wf : index.WellFormed) :
    index.parentOf? id = some parent ↔
      ∃ entity, index.get? parent = some entity ∧ id ∈ entity.children := by
  constructor
  · intro isParent
    obtain ⟨entity, found, link⟩ := Option.bind_eq_some_iff.mp isParent
    exact wf.parent_live found link
  · rintro ⟨entity, found, listed⟩
    obtain ⟨below, foundBelow, link⟩ := wf.linked found listed
    exact Option.bind_eq_some_iff.mpr ⟨below, foundBelow, link⟩

theorem parentOf?_lt {id parent : Nat} (wf : index.WellFormed)
    (isParent : index.parentOf? id = some parent) : parent < id := by
  obtain ⟨entity, found, listed⟩ := (parentOf?_eq_some_iff wf).mp isParent
  exact wf.lt_child found listed

/-- The project alone has no parent. -/
theorem parentOf?_eq_none_iff (wf : index.WellFormed) (found : index.get? id = some entity) :
    index.parentOf? id = none ↔ id = root := by
  constructor
  · intro orphan
    by_contra notRoot
    obtain ⟨parent, _, isParent, _⟩ := wf.listed found notRoot
    rw [parentOf?, found, Option.bind_some, isParent] at orphan
    cases orphan
  · rintro rfl
    obtain ⟨project, foundRoot, orphan⟩ := wf.root_live
    rw [parentOf?, foundRoot, Option.bind_some, orphan]

/-- Induction from the project down. Parents are older than their children. -/
theorem WellFormed.induction_down (wf : index.WellFormed) {motive : EntityId → Prop}
    (top : ∀ id, index.parentOf? id = none → motive id)
    (step : ∀ id parent, index.parentOf? id = some parent → motive parent → motive id)
    (id : EntityId) : motive id := by
  induction id using Nat.strong_induction_on with
  | _ id ih =>
    cases isParent : index.parentOf? id with
    | none => exact top id isParent
    | some parent => exact step id parent isParent (ih parent (parentOf?_lt wf isParent))

theorem climb_top (orphan : index.parentOf? id = none) (steps : Nat) :
    index.climb steps id = [] := by
  unfold parentOf? at orphan
  cases steps <;> simp only [climb, orphan]

theorem climb_succ (isParent : index.parentOf? id = some parent) (steps : Nat) :
    index.climb (steps + 1) id = parent :: index.climb steps parent := by
  unfold parentOf? at isParent
  simp only [climb, isParent]

/-- Beyond the number of older entities, further steps make no difference. -/
theorem climb_enough (wf : index.WellFormed) (steps more : Nat) (id : EntityId)
    (enough : id ≤ steps) (enoughMore : id ≤ more) :
    index.climb steps id = index.climb more id := by
  induction steps generalizing more id with
  | zero =>
    obtain ⟨project, found, _⟩ := wf.root_live
    obtain rfl : id = root := Nat.le_zero.mp enough
    have orphan := (parentOf?_eq_none_iff wf found).mpr rfl
    rw [climb_top orphan, climb_top orphan]
  | succ steps ih =>
    cases isParent : index.parentOf? id with
    | none => rw [climb_top isParent, climb_top isParent]
    | some parent =>
      have older : parent < id := parentOf?_lt wf isParent
      obtain ⟨rest, rfl⟩ : ∃ rest, more = rest + 1 :=
        Nat.exists_eq_succ_of_ne_zero (Nat.ne_zero_of_lt (Nat.lt_of_lt_of_le older enoughMore))
      rw [climb_succ isParent, climb_succ isParent,
        ih rest parent (Nat.le_of_lt_succ (Nat.lt_of_lt_of_le older enough))
          (Nat.le_of_lt_succ (Nat.lt_of_lt_of_le older enoughMore))]

theorem ancestors_top (orphan : index.parentOf? id = none) : index.ancestors id = [] :=
  climb_top orphan _

theorem ancestors_below (wf : index.WellFormed) (isParent : index.parentOf? id = some parent) :
    index.ancestors id = parent :: index.ancestors parent := by
  obtain ⟨entity, found, _⟩ := Option.bind_eq_some_iff.mp isParent
  have bound := lt_size_of_get? found
  have older : parent < id := parentOf?_lt wf isParent
  obtain ⟨steps, enough⟩ : ∃ steps, index.slots.size = steps + 1 :=
    Nat.exists_eq_succ_of_ne_zero (Nat.ne_zero_of_lt bound)
  rw [ancestors, enough, climb_succ isParent, ancestors, enough]
  rw [enough] at bound
  have first : parent ≤ steps := Nat.le_of_lt_succ (Nat.lt_trans older bound)
  rw [climb_enough wf steps (steps + 1) parent first (Nat.le_succ_of_le first)]

theorem meets_eq_contains (index : EntityIndex) (above : EntityId) (steps : Nat) (id : EntityId) :
    index.meets above steps id = (index.climb steps id).contains above := by
  induction steps generalizing id with
  | zero => rfl
  | succ steps ih =>
    unfold meets climb
    cases (index.get? id).bind Entity.parent? with
    | none => rfl
    | some parent =>
      simp only [ih, List.contains_cons, Bool.beq_eq_decide_eq, eq_comm]

theorem isBelow_iff : index.isBelow id above = true ↔ above ∈ index.ancestors id := by
  rw [isBelow, meets_eq_contains, ← ancestors, List.contains_iff_mem]

theorem under_iff_parent (wf : index.WellFormed) (isParent : index.parentOf? id = some parent) :
    index.Under above id ↔ index.Within above parent := by
  obtain ⟨entity, found, listed⟩ := (parentOf?_eq_some_iff wf).mp isParent
  constructor
  · rintro ⟨inside, differs⟩
    cases inside with
    | self => exact absurd rfl differs
    | child higher foundOther listedOther =>
      exact wf.parent_unique found listed foundOther listedOther ▸ higher
  · intro inside
    refine ⟨.child inside found listed, ?_⟩
    rintro rfl
    exact absurd (inside.le wf) (Nat.not_le_of_lt (wf.lt_child found listed))

theorem mem_ancestors_iff (wf : index.WellFormed) :
    above ∈ index.ancestors id ↔ index.Under above id := by
  induction id using wf.induction_down with
  | top id orphan =>
    rw [ancestors_top orphan]
    refine iff_of_false List.not_mem_nil ?_
    rintro ⟨inside, differs⟩
    cases inside with
    | self => exact differs rfl
    | child _ found listed =>
      rw [(parentOf?_eq_some_iff wf).mpr ⟨_, found, listed⟩] at orphan
      cases orphan
  | step id parent isParent ih =>
    obtain ⟨entity, found, _⟩ := (parentOf?_eq_some_iff wf).mp isParent
    rw [ancestors_below wf isParent, List.mem_cons, ih, under_iff_parent wf isParent]
    constructor
    · rintro (rfl | ⟨inside, _⟩)
      · exact .self found
      · exact inside
    · intro inside
      by_cases same : above = parent
      · exact .inl same
      · exact .inr ⟨inside, Ne.symm same⟩

theorem wayUp_ancestors (wf : index.WellFormed) (found : index.get? id = some entity) :
    index.WayUp id (index.ancestors id) := by
  induction id using wf.induction_down generalizing entity with
  | top id orphan =>
    obtain rfl := (parentOf?_eq_none_iff wf found).mp orphan
    rw [ancestors_top orphan]
    exact ⟨List.isChain_singleton _, List.nodup_singleton _, rfl⟩
  | step id parent isParent ih =>
    obtain ⟨known, foundParent, _⟩ := (parentOf?_eq_some_iff wf).mp isParent
    obtain ⟨linked, nodup, ends⟩ := ih foundParent
    have fresh : id ∉ index.ancestors id := fun member => ((mem_ancestors_iff wf).mp member).2 rfl
    rw [ancestors_below wf isParent] at fresh ⊢
    exact ⟨.cons_cons isParent linked, List.nodup_cons.mpr ⟨fresh, nodup⟩, ends⟩

/-! The ways down. -/

theorem subtree_eq_cons (wf : index.WellFormed) (found : index.get? id = some entity) :
    index.subtree id = id :: index.descendants id := by
  rw [descendants, subtree_found wf found]
  rfl

theorem descendants_missing (absent : index.get? id = none) : index.descendants id = [] := by
  rw [descendants, subtree_missing absent]
  rfl

theorem mem_descendants_iff (wf : index.WellFormed) :
    id ∈ index.descendants top ↔ index.Under top id := by
  cases found : index.get? top with
  | none =>
    rw [descendants_missing found]
    refine iff_of_false List.not_mem_nil ?_
    rintro ⟨inside, _⟩
    rw [← mem_subtree_iff wf, subtree_missing found] at inside
    cases inside
  | some entity =>
    have whole := subtree_eq_cons wf found
    have once := subtree_nodup wf top
    rw [Under, ← mem_subtree_iff wf, whole, List.mem_cons]
    rw [whole, List.nodup_cons] at once
    constructor
    · intro member
      exact ⟨.inr member, fun same => once.1 (same ▸ member)⟩
    · rintro ⟨same | member, differs⟩
      · exact absurd same differs
      · exact member

theorem descendants_nodup (wf : index.WellFormed) (id : EntityId) :
    (index.descendants id).Nodup :=
  (subtree_nodup wf id).sublist (List.drop_sublist 1 _)

/-- The lists of siblings' subtrees, one after the other. -/
theorem ordered_flatMap (wf : index.WellFormed) {order : EntityId → EntityId → Prop}
    {walk : EntityId → List EntityId} (found : index.get? id = some entity)
    (walks : ∀ child ∈ entity.children, index.Walks child order (walk child)) :
    (entity.children.flatMap walk).Pairwise fun first second =>
      order first second ∨ index.Earlier first second := by
  rw [List.pairwise_flatMap]
  refine ⟨fun child member => (walks child member).ordered, ?_⟩
  refine (wf.sorted found).imp_of_mem ?_
  intro older younger isOlder isYounger less first inOlder second inYounger
  exact .inr ⟨id, entity, older, younger, found, isOlder, isYounger, less,
    ((walks older isOlder).mem_iff first).mp inOlder,
    ((walks younger isYounger).mem_iff second).mp inYounger⟩

theorem inPreOrder_subtree (wf : index.WellFormed) (id : EntityId) :
    index.InPreOrder id (index.subtree id) := by
  induction id using wf.induction_up with
  | missing id absent =>
    refine ⟨fun other => mem_subtree_iff wf, subtree_nodup wf id, ?_⟩
    rw [subtree_missing absent]
    exact .nil
  | node id entity found ih =>
    refine ⟨fun other => mem_subtree_iff wf, subtree_nodup wf id, ?_⟩
    rw [subtree_found wf found, List.pairwise_cons]
    refine ⟨?_, ordered_flatMap wf found ih⟩
    intro other member
    have below : other ∈ index.descendants id := by
      rw [descendants, subtree_found wf found]
      exact member
    exact .inl ((mem_descendants_iff wf).mp below)

theorem inPostOrder_postOrder (wf : index.WellFormed) (id : EntityId) :
    index.InPostOrder id (index.postOrder id) := by
  have once (id : EntityId) : (index.postOrder id).Nodup :=
    (postOrder_perm_subtree wf id).nodup_iff.mpr (subtree_nodup wf id)
  induction id using wf.induction_up with
  | missing id absent =>
    refine ⟨fun other => mem_postOrder_iff wf, once id, ?_⟩
    rw [postOrder_missing absent]
    exact .nil
  | node id entity found ih =>
    refine ⟨fun other => mem_postOrder_iff wf, once id, ?_⟩
    rw [postOrder_found wf found, List.pairwise_append]
    refine ⟨ordered_flatMap wf found ih, List.pairwise_singleton _ _, ?_⟩
    intro other member last isLast
    obtain rfl := List.mem_singleton.mp isLast
    obtain ⟨child, listed, inside⟩ := List.mem_flatMap.mp member
    have below := (mem_postOrder_iff wf).mp inside
    refine .inl ⟨Within.trans (.child (.self found) found listed) below, ?_⟩
    rintro rfl
    exact absurd (below.le wf) (Nat.not_le_of_lt (wf.lt_child found listed))

/-! The search for what lies below an entity. -/

theorem entities_eq (index : EntityIndex) :
    index.entities = (List.range index.slots.size).filterMap index.get? := by
  rw [entities, slots_toList, List.filterMap_map]
  rfl

def increasingBelow (index : EntityIndex) (top : EntityId) : List EntityId :=
  (List.range index.slots.size).filter fun id => id ∈ index.descendants top

theorem increasingBelow_increasing (index : EntityIndex) (top : EntityId) :
    (index.increasingBelow top).Pairwise (· < ·) :=
  List.pairwise_lt_range.filter _

theorem increasingBelow_perm (wf : index.WellFormed) (top : EntityId) :
    (index.increasingBelow top).Perm (index.descendants top) := by
  have once : (index.increasingBelow top).Nodup := List.nodup_range.filter _
  rw [List.perm_ext_iff_of_nodup once (descendants_nodup wf top)]
  intro id
  simp only [increasingBelow, List.mem_filter, List.mem_range, decide_eq_true_eq,
    and_iff_right_iff_imp]
  intro member
  obtain ⟨entity, found⟩ := ((mem_descendants_iff wf).mp member).1.live wf
  exact lt_size_of_get? found

/-- Every entity that is found is the one with its identifier, so that nothing is passed over. -/
theorem select_below (wf : index.WellFormed) (top : EntityId) :
    (index.select [Query.below top]).map some = (index.increasingBelow top).map index.get? := by
  have picked : ∀ id, (index.get? id).filter (fun entity => [Query.below top].all (· index entity)) =
      if id ∈ index.descendants top then index.get? id else none := by
    intro id
    cases found : index.get? id with
    | none => simp
    | some entity =>
      have fits : Query.below top index entity = true ↔ id ∈ index.descendants top := by
        rw [Query.below, wf.id_eq found, Option.any_some, isBelow_iff, mem_ancestors_iff wf,
          mem_descendants_iff wf]
      simp [Option.filter, fits]
  have tested :
      (Option.isSome ∘ fun id => if id ∈ index.descendants top then index.get? id else none) =
      fun id => decide (id ∈ index.descendants top) := by
    funext id
    by_cases member : id ∈ index.descendants top
    · obtain ⟨entity, found⟩ := ((mem_descendants_iff wf).mp member).1.live wf
      simp [member, found]
    · simp [member]
  rw [select, entities_eq, List.filter_filterMap, List.map_filterMap_some_eq_filter_map_isSome,
    increasingBelow, List.filter_map]
  simp only [picked, tested]
  apply List.map_congr_left
  intro id member
  exact if_pos (of_decide_eq_true (List.mem_filter.mp member).2)

end CodeMetrics.EntityIndex
