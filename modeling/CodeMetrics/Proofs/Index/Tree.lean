import CodeMetrics.Proofs.Index.Lookup
import Mathlib.Data.List.Nodup

/-!
The tree in an entity index. `WellFormed` says what the slots, the links and the table of keys have
to do with each other. On a well-formed index every walk follows the links: it is a fold over the
subtree, and the bound on its depth never cuts anything off.
-/

namespace CodeMetrics.EntityIndex

/-- The links form one tree below the project, and the table of keys belongs to it. -/
structure WellFormed (index : EntityIndex) : Prop where
  root_live : ∃ project, index.get? root = some project ∧ project.parent? = none
  id_eq : ∀ {id entity}, index.get? id = some entity → entity.id? = some id
  /-- Every entity but the project hangs below an older one, which lists it. -/
  listed : ∀ {id entity}, index.get? id = some entity → id ≠ root →
    ∃ parent above, entity.parent? = some parent ∧ parent < id ∧
      index.get? parent = some above ∧ id ∈ above.children
  /-- Whatever an entity lists hangs below it. -/
  linked : ∀ {id entity child}, index.get? id = some entity → child ∈ entity.children →
    ∃ below, index.get? child = some below ∧ below.parent? = some id
  sorted : ∀ {id entity}, index.get? id = some entity → entity.children.Pairwise (· < ·)
  keyed : ∀ {key id}, index.idOf? key = some id ↔
    ∃ entity, index.get? id = some entity ∧ entity.key = key
  size_eq : index.size = index.liveIds.card

/-- The entities of a subtree: its top, and what an entity of the subtree lists. -/
inductive Within (index : EntityIndex) (top : EntityId) : EntityId → Prop where
  | self {entity : Entity} (found : index.get? top = some entity) : Within index top top
  | child {id below : EntityId} {entity : Entity} (inside : Within index top id)
      (found : index.get? id = some entity) (listed : below ∈ entity.children) :
      Within index top below

namespace WellFormed

variable {index : EntityIndex} {id other child : EntityId} {entity : Entity}

theorem child_ne_root (wf : index.WellFormed) (found : index.get? id = some entity)
    (member : child ∈ entity.children) : child ≠ root := by
  rintro rfl
  obtain ⟨project, foundRoot, orphan⟩ := wf.root_live
  obtain ⟨below, foundChild, link⟩ := wf.linked found member
  rw [foundRoot] at foundChild
  cases foundChild
  rw [orphan] at link
  cases link

theorem child_live (wf : index.WellFormed) (found : index.get? id = some entity)
    (member : child ∈ entity.children) : index.contains child = true := by
  obtain ⟨below, foundBelow, _⟩ := wf.linked found member
  exact contains_of_get? foundBelow

/-- Children are younger than their parent, so walks downwards end. -/
theorem lt_child {id child : Nat} (wf : index.WellFormed) (found : index.get? id = some entity)
    (member : child ∈ entity.children) : id < child := by
  obtain ⟨below, foundChild, link⟩ := wf.linked found member
  obtain ⟨parent, _, isParent, older, _, _⟩ :=
    wf.listed foundChild (wf.child_ne_root found member)
  rw [link] at isParent
  cases isParent
  exact older

/-- Whatever an entity hangs below is there and lists it. -/
theorem parent_live (wf : index.WellFormed) {parent : EntityId}
    (found : index.get? id = some entity) (isParent : entity.parent? = some parent) :
    ∃ above, index.get? parent = some above ∧ id ∈ above.children := by
  have notRoot : id ≠ root := by
    rintro rfl
    obtain ⟨project, foundRoot, orphan⟩ := wf.root_live
    rw [found] at foundRoot
    cases foundRoot
    rw [orphan] at isParent
    cases isParent
  obtain ⟨known, above, isKnown, _, foundAbove, listed⟩ := wf.listed found notRoot
  rw [isParent] at isKnown
  cases isKnown
  exact ⟨above, foundAbove, listed⟩

theorem parent_unique (wf : index.WellFormed) {second : Entity}
    (found : index.get? id = some entity) (member : child ∈ entity.children)
    (foundOther : index.get? other = some second) (memberOther : child ∈ second.children) :
    id = other := by
  obtain ⟨below, foundChild, link⟩ := wf.linked found member
  obtain ⟨_, foundAgain, linkOther⟩ := wf.linked foundOther memberOther
  rw [foundChild] at foundAgain
  cases foundAgain
  rw [link] at linkOther
  exact Option.some.inj linkOther

theorem children_nodup (wf : index.WellFormed) (found : index.get? id = some entity) :
    entity.children.Nodup :=
  (wf.sorted found).imp Nat.ne_of_lt

theorem key_unique (wf : index.WellFormed) {second : Entity}
    (found : index.get? id = some entity) (foundOther : index.get? other = some second)
    (same : entity.key = second.key) : id = other := by
  have first := wf.keyed.mpr ⟨entity, found, same⟩
  have again := wf.keyed.mpr ⟨second, foundOther, rfl⟩
  exact Option.some.inj (first.symm.trans again)

/-- Induction from the leaves up. Identifiers grow downwards and are bounded by the slots. -/
theorem induction_up (wf : index.WellFormed) {motive : EntityId → Prop}
    (missing : ∀ id, index.get? id = none → motive id)
    (node : ∀ id entity, index.get? id = some entity →
      (∀ child ∈ entity.children, motive child) → motive id) (id : EntityId) : motive id := by
  induction distance_eq : index.slots.size - id using Nat.strong_induction_on generalizing id with
  | _ distance ih =>
    cases found : index.get? id with
    | none => exact missing id found
    | some entity =>
      apply node id entity found
      intro child member
      have closer : index.slots.size - child < distance := by
        rw [← distance_eq]
        exact Nat.sub_lt_sub_left (lt_size_of_get? found) (wf.lt_child found member)
      exact ih (index.slots.size - child) closer child rfl

end WellFormed

namespace Within

variable {index : EntityIndex} {top middle id : EntityId} {entity : Entity}

theorem live (wf : index.WellFormed) (inside : index.Within top id) :
    ∃ entity, index.get? id = some entity := by
  cases inside with
  | self found => exact ⟨_, found⟩
  | child _ found listed =>
    obtain ⟨below, foundBelow, _⟩ := wf.linked found listed
    exact ⟨below, foundBelow⟩

theorem le (wf : index.WellFormed) (inside : index.Within top id) : top ≤ id := by
  induction inside with
  | self => exact Nat.le_refl _
  | child _ found listed ih => exact Nat.le_trans ih (Nat.le_of_lt (wf.lt_child found listed))

theorem trans (first : index.Within top middle) (second : index.Within middle id) :
    index.Within top id := by
  induction second with
  | self => exact first
  | child _ found listed ih => exact .child ih found listed

/-- Two subtrees that meet are nested: the way up from a common entity is the same. -/
theorem nested (wf : index.WellFormed) {other : EntityId} (first : index.Within top id)
    (second : index.Within other id) : index.Within top other ∨ index.Within other top := by
  induction first with
  | self => exact .inr second
  | child inside found listed ih =>
    cases second with
    | self => exact .inl (.child inside found listed)
    | child insideOther foundOther listedOther =>
      have same := wf.parent_unique found listed foundOther listedOther
      subst same
      exact ih insideOther

theorem iff_top_or_child (wf : index.WellFormed) (found : index.get? top = some entity) :
    index.Within top id ↔ id = top ∨ ∃ child ∈ entity.children, index.Within child id := by
  constructor
  · intro inside
    induction inside with
    | self => exact .inl rfl
    | @child id below upper _ foundUpper listed ih =>
      rcases ih with rfl | ⟨child, member, within⟩
      · rw [found] at foundUpper
        cases foundUpper
        obtain ⟨lower, foundBelow, _⟩ := wf.linked found listed
        exact .inr ⟨below, listed, .self foundBelow⟩
      · exact .inr ⟨child, member, .child within foundUpper listed⟩
  · rintro (rfl | ⟨child, member, within⟩)
    · exact .self found
    · exact trans (.child (.self found) found member) within

/-- The subtrees of two children of one entity have nothing in common. -/
theorem sibling_unique (wf : index.WellFormed) {first second : EntityId}
    (found : index.get? top = some entity) (memberFirst : first ∈ entity.children)
    (memberSecond : second ∈ entity.children) (inFirst : index.Within first id)
    (inSecond : index.Within second id) : first = second := by
  -- A child inside a sibling's subtree would put their parent there too, below its own child.
  have apart : ∀ {inner outer : EntityId}, inner ∈ entity.children → outer ∈ entity.children →
      index.Within outer inner → inner = outer := by
    intro inner outer memberInner memberOuter inside
    cases inside with
    | self => rfl
    | child above foundAbove listed =>
      have same := wf.parent_unique found memberInner foundAbove listed
      subst same
      exact absurd (above.le wf) (Nat.not_le_of_lt (wf.lt_child found memberOuter))
  rcases inFirst.nested wf inSecond with inside | inside
  · exact (apart memberSecond memberFirst inside).symm
  · exact apart memberFirst memberSecond inside

end Within

/-! Walks as folds. -/

section Walks

variable {β : Type}

def foldLevels (missing : β) (node : EntityId → Entity → List β → β) (index : EntityIndex) :
    Nat → EntityId → β
  | 0, _ => missing
  | levels + 1, id =>
    match index.get? id with
    | some entity =>
      node id entity (entity.children.map (foldLevels missing node index levels))
    | none => missing

def foldTree (missing : β) (node : EntityId → Entity → List β → β) (index : EntityIndex)
    (id : EntityId) : β :=
  foldLevels missing node index index.slots.size id

theorem foldLevels_missing (missing : β) (node : EntityId → Entity → List β → β)
    {index : EntityIndex} {id : EntityId} (absent : index.get? id = none) (levels : Nat) :
    foldLevels missing node index levels id = missing := by
  cases levels with
  | zero => rfl
  | succ levels => simp only [foldLevels, absent]

/-- Beyond the number of slots above an identifier, further levels make no difference. -/
theorem foldLevels_enough (missing : β) (node : EntityId → Entity → List β → β)
    {index : EntityIndex} (wf : index.WellFormed) (levels more : Nat) (id : EntityId)
    (enough : index.slots.size ≤ id + levels) (enoughMore : index.slots.size ≤ id + more) :
    foldLevels missing node index levels id = foldLevels missing node index more id := by
  induction levels generalizing more id with
  | zero =>
    have absent : index.get? id = none := by
      by_contra live
      obtain ⟨entity, found⟩ := Option.ne_none_iff_exists'.mp live
      exact absurd (lt_size_of_get? found) (Nat.not_lt_of_le enough)
    rw [foldLevels_missing missing node absent, foldLevels_missing missing node absent]
  | succ levels ih =>
    cases found : index.get? id with
    | none => rw [foldLevels_missing missing node found, foldLevels_missing missing node found]
    | some entity =>
      have bound := lt_size_of_get? found
      obtain ⟨rest, rfl⟩ : ∃ rest, more = rest + 1 :=
        Nat.exists_eq_succ_of_ne_zero fun none => by subst none; omega
      simp only [foldLevels, found]
      congr 1
      apply List.map_congr_left
      intro child member
      have younger := wf.lt_child found member
      exact ih rest child (by omega) (by omega)

theorem foldTree_missing (missing : β) (node : EntityId → Entity → List β → β)
    {index : EntityIndex} {id : EntityId} (absent : index.get? id = none) :
    foldTree missing node index id = missing :=
  foldLevels_missing missing node absent _

theorem foldTree_found (missing : β) (node : EntityId → Entity → List β → β)
    {index : EntityIndex} (wf : index.WellFormed) {id : EntityId} {entity : Entity}
    (found : index.get? id = some entity) :
    foldTree missing node index id =
      node id entity (entity.children.map (foldTree missing node index)) := by
  have bound := lt_size_of_get? found
  obtain ⟨levels, enough⟩ : ∃ levels, index.slots.size = levels + 1 :=
    Nat.exists_eq_succ_of_ne_zero (Nat.ne_zero_of_lt bound)
  rw [foldTree, enough]
  simp only [foldLevels, found]
  congr 1
  apply List.map_congr_left
  intro child member
  have younger := wf.lt_child found member
  exact foldLevels_enough missing node wf levels index.slots.size child (by omega) (by omega)

end Walks

theorem descend_eq_foldLevels (index : EntityIndex) (levels : Nat) (id : EntityId) :
    index.descend levels id =
      foldLevels [] (fun id _ below => id :: below.flatten) index levels id := by
  induction levels generalizing id with
  | zero => rfl
  | succ levels ih =>
    simp only [descend, foldLevels, List.flatMap_def]
    cases index.get? id with
    | none => rfl
    | some entity => rw [funext ih]

theorem ascend_eq_foldLevels (index : EntityIndex) (levels : Nat) (id : EntityId) :
    index.ascend levels id =
      foldLevels [] (fun id _ below => below.flatten ++ [id]) index levels id := by
  induction levels generalizing id with
  | zero => rfl
  | succ levels ih =>
    simp only [ascend, foldLevels, List.flatMap_def]
    cases index.get? id with
    | none => rfl
    | some entity => rw [funext ih]

theorem subtree_eq_foldTree (index : EntityIndex) :
    index.subtree = foldTree [] (fun id _ below => id :: below.flatten) index :=
  funext fun id => index.descend_eq_foldLevels index.slots.size id

theorem postOrder_eq_foldTree (index : EntityIndex) :
    index.postOrder = foldTree [] (fun id _ below => below.flatten ++ [id]) index :=
  funext fun id => index.ascend_eq_foldLevels index.slots.size id

variable {index : EntityIndex} {id other : EntityId} {entity : Entity}

theorem subtree_missing (absent : index.get? id = none) : index.subtree id = [] := by
  rw [subtree_eq_foldTree, foldTree_missing _ _ absent]

theorem postOrder_missing (absent : index.get? id = none) : index.postOrder id = [] := by
  rw [postOrder_eq_foldTree, foldTree_missing _ _ absent]

theorem subtree_found (wf : index.WellFormed) (found : index.get? id = some entity) :
    index.subtree id = id :: entity.children.flatMap index.subtree := by
  rw [subtree_eq_foldTree, foldTree_found _ _ wf found, List.flatMap_def]

theorem postOrder_found (wf : index.WellFormed) (found : index.get? id = some entity) :
    index.postOrder id = entity.children.flatMap index.postOrder ++ [id] := by
  rw [postOrder_eq_foldTree, foldTree_found _ _ wf found, List.flatMap_def]

theorem mem_subtree_iff (wf : index.WellFormed) :
    other ∈ index.subtree id ↔ index.Within id other := by
  induction id using wf.induction_up with
  | missing id absent =>
    rw [subtree_missing absent]
    constructor
    · intro member
      cases member
    · intro inside
      -- The way down starts at an entity of the index.
      have top : ∀ {below}, index.Within id below → ∃ entity, index.get? id = some entity := by
        intro below within
        induction within with
        | self found => exact ⟨_, found⟩
        | child _ _ _ ih => exact ih
      obtain ⟨entity, found⟩ := top inside
      rw [absent] at found
      cases found
  | node id entity found ih =>
    rw [subtree_found wf found, Within.iff_top_or_child wf found, List.mem_cons, List.mem_flatMap]
    constructor
    · rintro (same | ⟨child, member, below⟩)
      · exact .inl same
      · exact .inr ⟨child, member, (ih child member).mp below⟩
    · rintro (same | ⟨child, member, below⟩)
      · exact .inl same
      · exact .inr ⟨child, member, (ih child member).mpr below⟩

theorem subtree_nodup (wf : index.WellFormed) (id : EntityId) : (index.subtree id).Nodup := by
  induction id using wf.induction_up with
  | missing id absent =>
    rw [subtree_missing absent]
    exact List.nodup_nil
  | node id entity found ih =>
    rw [subtree_found wf found, List.nodup_cons, List.nodup_flatMap]
    refine ⟨?_, ih, ?_⟩
    · intro member
      obtain ⟨child, listed, inside⟩ := List.mem_flatMap.mp member
      have below := ((mem_subtree_iff wf).mp inside).le wf
      exact absurd below (Nat.not_le_of_lt (wf.lt_child found listed))
    · refine (wf.children_nodup found).imp_of_mem ?_
      intro first second memberFirst memberSecond differ
      refine List.disjoint_left.mpr ?_
      intro other inFirst inSecond
      exact differ (Within.sibling_unique wf found memberFirst memberSecond
        ((mem_subtree_iff wf).mp inFirst) ((mem_subtree_iff wf).mp inSecond))

/-- Both walks visit the same entities. -/
theorem postOrder_perm_subtree (wf : index.WellFormed) (id : EntityId) :
    (index.postOrder id).Perm (index.subtree id) := by
  induction id using wf.induction_up with
  | missing id absent => rw [postOrder_missing absent, subtree_missing absent]
  | node id entity found ih =>
    rw [postOrder_found wf found, subtree_found wf found]
    have below : (entity.children.flatMap index.postOrder).Perm
        (entity.children.flatMap index.subtree) := List.Perm.flatMap_left entity.children ih
    exact (below.append_right [id]).trans (List.perm_append_singleton id _)

theorem mem_postOrder_iff (wf : index.WellFormed) :
    other ∈ index.postOrder id ↔ index.Within id other := by
  rw [(postOrder_perm_subtree wf id).mem_iff, mem_subtree_iff wf]

end CodeMetrics.EntityIndex
