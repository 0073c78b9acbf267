import CodeMetrics.Proofs.Index.Run
import CodeMetrics.Proofs.Index.Walks
import Mathlib.Computability.StateTransition

/-!
The walks as loops, one round after the other: the ways up keep the next entity to look at, the ways
down keep a stack. On every index that calls lead to the loops come to an end, and they end with the
lists that the walks give. The rounds themselves know nothing of a bound.
-/

namespace CodeMetrics.EntityIndex

open StateTransition (eval mem_eval)

def upRound (index : EntityIndex) :
    Option EntityId × List EntityId → Option (Option EntityId × List EntityId)
  | (none, _) => none
  | (some next, passed) => some (index.parentOf? next, passed ++ [next])

def seekRound (index : EntityIndex) (sought : EntityId) : Option EntityId → Option (Option EntityId)
  | none => none
  | some next => if next = sought then none else some (index.parentOf? next)

def listedBy (index : EntityIndex) (id : EntityId) : List EntityId :=
  (index.get? id).elim [] Entity.children

/-- One round down: the first entity of the stack is added to the list, and what it lists takes its
place. -/
def preRound (index : EntityIndex) :
    List EntityId × List EntityId → Option (List EntityId × List EntityId)
  | ([], _) => none
  | (next :: stack, passed) => some (index.listedBy next ++ stack, passed ++ [next])

/-- One round down and up again: an entity that comes up first is put back, marked, behind what it
lists; an entity that comes up marked is added to the list. -/
def postRound (index : EntityIndex) :
    List (EntityId × Bool) × List EntityId → Option (List (EntityId × Bool) × List EntityId)
  | ([], _) => none
  | ((next, true) :: stack, passed) => some (stack, passed ++ [next])
  | ((next, false) :: stack, passed) =>
    some ((index.listedBy next).map (·, false) ++ (next, true) :: stack, passed)

variable {index : EntityIndex} {id above : EntityId} {entity : Entity}

theorem listedBy_found (found : index.get? id = some entity) :
    index.listedBy id = entity.children := by
  rw [listedBy, found, Option.elim_some]

theorem reaches_upRound (wf : index.WellFormed) (id : EntityId) (passed : List EntityId) :
    StateTransition.Reaches index.upRound (index.parentOf? id, passed)
      (none, passed ++ index.ancestors id) := by
  induction id using wf.induction_down generalizing passed with
  | top id orphan =>
    rw [orphan, ancestors_top orphan, List.append_nil]
    exact .refl
  | step id parent isParent ih =>
    have rest := ih (passed ++ [parent])
    rw [List.append_assoc, List.singleton_append, ← ancestors_below wf isParent] at rest
    rw [isParent]
    exact .head rfl rest

theorem reaches_seekRound (wf : index.WellFormed) (id above : EntityId) :
    StateTransition.Reaches (index.seekRound above) (index.parentOf? id)
      (if index.isBelow id above then some above else none) := by
  induction id using wf.induction_down with
  | top id orphan =>
    have apart : ¬index.isBelow id above = true := by
      rw [isBelow_iff, ancestors_top orphan]
      exact List.not_mem_nil
    rw [orphan, if_neg apart]
    exact .refl
  | step id parent isParent ih =>
    have below : index.isBelow id above = true ↔
        above = parent ∨ index.isBelow parent above = true := by
      rw [isBelow_iff, isBelow_iff, ancestors_below wf isParent, List.mem_cons]
    rw [isParent]
    by_cases same : parent = above
    · rw [if_pos (below.mpr (.inl same.symm)), same]
      exact .refl
    · have further : index.isBelow id above = index.isBelow parent above :=
        Bool.eq_iff_iff.mpr (below.trans (or_iff_right (Ne.symm same)))
      have next : index.seekRound above (some parent) = some (index.parentOf? parent) := if_neg same
      rw [further]
      exact .head next ih

/-- Items on the stack are worked off one after the other, if each of them is. -/
theorem reaches_all {β : Type} {round : List β × List EntityId → Option (List β × List EntityId)}
    {walk : β → List EntityId} (items : List β)
    (each : ∀ item ∈ items, ∀ stack passed,
      StateTransition.Reaches round (item :: stack, passed) (stack, passed ++ walk item))
    (stack : List β) (passed : List EntityId) :
    StateTransition.Reaches round (items ++ stack, passed)
      (stack, passed ++ items.flatMap walk) := by
  induction items generalizing passed with
  | nil =>
    rw [List.flatMap_nil, List.append_nil]
    exact .refl
  | cons item rest ih =>
    have first := each item (List.mem_cons_self ..) (rest ++ stack) passed
    have others := ih (fun other member => each other (List.mem_cons_of_mem _ member))
      (passed ++ walk item)
    rw [List.flatMap_cons, ← List.append_assoc]
    exact first.trans others

theorem reaches_preRound (wf : index.WellFormed) (live : index.contains id = true)
    (stack passed : List EntityId) :
    StateTransition.Reaches index.preRound (id :: stack, passed)
      (stack, passed ++ index.subtree id) := by
  induction id using wf.induction_up generalizing stack passed with
  | missing id absent => simp [contains, absent] at live
  | node id entity found ih =>
    have below := reaches_all entity.children
      (fun child member => ih child member (wf.child_live found member)) stack (passed ++ [id])
    rw [List.append_assoc, List.singleton_append, ← subtree_found wf found,
      ← listedBy_found found] at below
    exact .head rfl below

theorem reaches_postRound (wf : index.WellFormed) (live : index.contains id = true)
    (stack : List (EntityId × Bool)) (passed : List EntityId) :
    StateTransition.Reaches index.postRound ((id, false) :: stack, passed)
      (stack, passed ++ index.postOrder id) := by
  induction id using wf.induction_up generalizing stack passed with
  | missing id absent => simp [contains, absent] at live
  | node id entity found ih =>
    have each : ∀ item ∈ entity.children.map (·, false), ∀ stack passed,
        StateTransition.Reaches index.postRound (item :: stack, passed)
          (stack, passed ++ index.postOrder item.1) := by
      intro item member
      obtain ⟨child, listed, rfl⟩ := List.mem_map.mp member
      exact ih child listed (wf.child_live found listed)
    -- The entity waits, marked, below what it lists.
    have below := reaches_all _ each ((id, true) :: stack) passed
    rw [List.flatMap_map, ← listedBy_found found] at below
    rw [postOrder_found wf found, ← listedBy_found found, ← List.append_assoc]
    exact .tail (.head rfl below) rfl

/-- After any calls the walks tell one and the same relation: an entity lies below another one if the
way up from it leads there, if the walk down from the other one comes to it, and if the search finds
it. The way up follows the parents of a live entity to the project; the walks down list its subtree
in pre-order and in post-order. An identifier that is not in use gives nothing. And round by round,
without a bound, each walk comes to its end. -/
theorem run_walks_agree (project : Entity) (calls : List IndexCall) :
    let index := (ofProject project).run calls
    (∀ id above, (index.isBelow id above = true ↔ above ∈ index.ancestors id) ∧
      (above ∈ index.ancestors id ↔ id ∈ index.descendants above)) ∧
    (∀ above, ∃ ids : List EntityId, ids.Perm (index.descendants above) ∧ ids.Pairwise (· < ·) ∧
      (index.select [Query.below above]).map some = ids.map index.get?) ∧
    (∀ id, index.contains id = true →
      index.WayUp id (index.ancestors id) ∧
      index.subtree id = id :: index.descendants id ∧
      index.InPreOrder id (index.subtree id) ∧
      index.InPostOrder id (index.postOrder id)) ∧
    (∀ id, index.contains id = false →
      index.ancestors id = [] ∧ index.subtree id = [] ∧ index.descendants id = [] ∧
      index.postOrder id = [] ∧ index.select [Query.below id] = [] ∧
      ∀ other, index.isBelow id other = false ∧ index.isBelow other id = false) ∧
    (∀ id, (none, index.ancestors id) ∈ eval index.upRound (index.parentOf? id, [])) ∧
    (∀ id above, (if index.isBelow id above then some above else none) ∈
      eval (index.seekRound above) (index.parentOf? id)) ∧
    (∀ id, index.contains id = true →
      ([], index.subtree id) ∈ eval index.preRound ([id], []) ∧
      ([], index.postOrder id) ∈ eval index.postRound ([(id, false)], [])) := by
  intro index
  have wf : index.WellFormed := wellFormed_run_ofProject project calls
  have agree : ∀ id above, above ∈ index.ancestors id ↔ id ∈ index.descendants above :=
    fun id above => (mem_ancestors_iff wf).trans (mem_descendants_iff wf).symm
  refine ⟨fun id above => ⟨isBelow_iff, agree id above⟩, ?_, ?_, ?_, ?_, ?_, ?_⟩
  · intro above
    exact ⟨index.increasingBelow above, increasingBelow_perm wf above,
      index.increasingBelow_increasing above, select_below wf above⟩
  · intro id live
    obtain ⟨entity, found⟩ := contains_iff.mp live
    exact ⟨wayUp_ancestors wf found, subtree_eq_cons wf found, inPreOrder_subtree wf id,
      inPostOrder_postOrder wf id⟩
  · intro id dead
    have absent : index.get? id = none := by simpa [contains] using dead
    have topless : index.parentOf? id = none := by rw [parentOf?, absent, Option.bind_none]
    have none_above := ancestors_top topless
    have none_below := descendants_missing absent
    refine ⟨none_above, subtree_missing absent, none_below, postOrder_missing absent, ?_, ?_⟩
    · have found := select_below wf id
      have empty := (increasingBelow_perm wf id).trans (.of_eq none_below)
      rw [List.perm_nil.mp empty] at found
      exact List.map_eq_nil_iff.mp found
    · intro other
      simp only [Bool.eq_false_iff, Ne, isBelow_iff, agree other id, none_above, none_below,
        List.not_mem_nil, not_false_eq_true, and_self]
  · intro id
    exact mem_eval.mpr ⟨reaches_upRound wf id [], rfl⟩
  · intro id above
    refine mem_eval.mpr ⟨reaches_seekRound wf id above, ?_⟩
    split
    · exact if_pos rfl
    · rfl
  · intro id live
    exact ⟨mem_eval.mpr ⟨reaches_preRound wf live [] [], rfl⟩,
      mem_eval.mpr ⟨reaches_postRound wf live [] [], rfl⟩⟩

end CodeMetrics.EntityIndex
