import CodeMetrics.Proofs.Index.Run
import Mathlib.Data.Set.Card

/-!
Decoration computes a recursion over the tree. The totals of an entity are defined here on the tree
of set values alone, without an index. The pass over an index gives every entity of a subtree
exactly these totals, whatever earlier passes have left behind, and touches nothing else.
-/

namespace CodeMetrics

def withSum (raw : Measures) (below : List Measures) (table : Measures) (metric : Metric) :
    Measures :=
  if metric.aggregation = .sum then
    table.set metric.name (raw.value metric.name +
      below.foldl (fun sum child => sum + child.value metric.name) (-0.0))
  else table

def withFormula (table : Measures) (metric : Metric) : Measures :=
  match metric.aggregation, metric.formula? with
  | .formula, some formula => table.set metric.name (formula table)
  | _, _ => table

def nodeTotals (metrics : List Metric) (raw : Measures) (below : List Measures) : Measures :=
  metrics.foldl withFormula (metrics.foldl (withSum raw below) raw)

/-- The set values of an entity and of everything below it, children in their order. -/
inductive ValueTree where
  | node (raw : Measures) (children : List ValueTree)

mutual

def ValueTree.totals (metrics : List Metric) : ValueTree → Measures
  | .node raw children => nodeTotals metrics raw (ValueTree.totalsOfAll metrics children)

def ValueTree.totalsOfAll (metrics : List Metric) : List ValueTree → List Measures
  | [] => []
  | tree :: others => tree.totals metrics :: ValueTree.totalsOfAll metrics others

end

theorem ValueTree.totalsOfAll_eq_map (metrics : List Metric) (trees : List ValueTree) :
    ValueTree.totalsOfAll metrics trees = trees.map (ValueTree.totals metrics) := by
  induction trees with
  | nil => simp only [ValueTree.totalsOfAll, List.map_nil]
  | cons tree others ih => simp only [ValueTree.totalsOfAll, List.map_cons, ih]

theorem ValueTree.totals_node (metrics : List Metric) (raw : Measures)
    (children : List ValueTree) :
    (ValueTree.node raw children).totals metrics =
      nodeTotals metrics raw (children.map (ValueTree.totals metrics)) := by
  rw [ValueTree.totals, ValueTree.totalsOfAll_eq_map]

theorem aggregate_eq_nodeTotals (metrics : List Metric) (raw : Measures) (below : List Measures) :
    aggregate metrics raw below = nodeTotals metrics raw below := by
  have sums : (fun table metric => if decide (metric.aggregation = .sum) = true
      then addTotal raw below table metric else table) = withSum raw below := by
    funext table metric
    simp only [withSum, addTotal, sumFrom, List.foldl_map, decide_eq_true_eq]
  have formulas : (fun table metric => if decide (metric.aggregation = .formula) = true
      then addFormula table metric else table) = withFormula := by
    funext table metric
    simp only [decide_eq_true_eq, withFormula, addFormula]
    cases metric.aggregation <;> cases metric.formula? <;> simp
  unfold aggregate nodeTotals
  simp only [List.foldl_filter]
  rw [sums, formulas]

namespace EntityIndex

def valueTree (index : EntityIndex) (id : EntityId) : ValueTree :=
  foldTree (.node .empty []) (fun _ entity below => .node entity.raw below) index id

def totals (index : EntityIndex) (metrics : List Metric) (id : EntityId) : Measures :=
  (index.valueTree id).totals metrics

theorem totals_found {index : EntityIndex} (wf : index.WellFormed) (metrics : List Metric)
    {id : EntityId} {entity : Entity} (found : index.get? id = some entity) :
    index.totals metrics id =
      nodeTotals metrics entity.raw (entity.children.map (index.totals metrics)) := by
  have unfolded : index.valueTree id = .node entity.raw (entity.children.map index.valueTree) :=
    foldTree_found _ _ wf found
  rw [totals, unfolded, ValueTree.totals_node, List.map_map]
  rfl

/-- A fold that does not look at decorations does not depend on them. -/
theorem foldTree_agree {β : Type} (missing : β) (node : EntityId → Entity → List β → β)
    {index after : EntityIndex} (agree : Agree Entity.undecorated index after)
    (blind : ∀ id entity below, node id entity.undecorated below = node id entity below) :
    foldTree missing node after = foldTree missing node index := by
  funext id
  unfold foldTree
  rw [agree.slots]
  generalize index.slots.size = levels
  induction levels generalizing id with
  | zero => rfl
  | succ levels ih =>
    have same := agree.lookup id
    cases found : index.get? id with
    | none =>
      have absent : after.get? id = none := by simpa [found] using same
      simp only [foldLevels, found, absent]
    | some entity =>
      obtain ⟨changed, foundChanged, alike⟩ := agree.found found
      have sameChildren : changed.undecorated.children = entity.undecorated.children := by
        rw [alike]
      change changed.children = entity.children at sameChildren
      simp only [foldLevels, found, foundChanged]
      rw [← blind id changed, ← blind id entity, alike, sameChildren, funext ih]

theorem postOrder_agree {index after : EntityIndex} (agree : Agree Entity.undecorated index after) :
    after.postOrder = index.postOrder := by
  rw [postOrder_eq_foldTree, postOrder_eq_foldTree]
  exact foldTree_agree _ _ agree fun _ _ _ => rfl

/-- The given entities now show the given tables, and no other entity has changed. -/
def Shows (tables : EntityId → Measures) (ids : List EntityId) (index after : EntityIndex) : Prop :=
  ∀ other, after.get? other =
    if other ∈ ids then
      (index.get? other).map fun entity => { entity with decorated? := some (tables other) }
    else index.get? other

theorem Shows.append {tables : EntityId → Measures} {first second : List EntityId}
    {index middle after : EntityIndex} (before : Shows tables first index middle)
    (next : Shows tables second middle after) : Shows tables (first ++ second) index after := by
  intro other
  rw [next other, before other]
  by_cases inFirst : other ∈ first
  · by_cases inSecond : other ∈ second
    · simp only [inFirst, inSecond, List.mem_append, or_self, if_true, Option.map_map,
        Function.comp_def]
    · simp only [inFirst, inSecond, List.mem_append, true_or, if_true, if_false]
  · by_cases inSecond : other ∈ second
    · simp only [inFirst, inSecond, List.mem_append, or_true, if_true, if_false]
    · simp only [inFirst, inSecond, List.mem_append, or_self, if_false]

/-- One entity gets its totals once all its children show theirs. -/
theorem shows_decorateOne {index current : EntityIndex} (wf : index.WellFormed)
    (agree : Agree Entity.undecorated index current) (metrics : List Metric) {id : EntityId}
    {entity : Entity} (found : index.get? id = some entity)
    (ready : ∀ child ∈ entity.children, ∃ below,
      current.get? child = some below ∧ below.decorated? = some (index.totals metrics child)) :
    Shows (index.totals metrics) [id] current (decorateOne metrics current id) := by
  obtain ⟨present, foundPresent, alike⟩ := agree.found found
  have sameRaw : present.undecorated.raw = entity.undecorated.raw := by rw [alike]
  have sameChildren : present.undecorated.children = entity.undecorated.children := by rw [alike]
  change present.raw = entity.raw at sameRaw
  change present.children = entity.children at sameChildren
  have views : (current.childrenOf id).map Entity.view =
      entity.children.map (index.totals metrics) := by
    simp only [childrenOf, foundPresent, sameChildren, List.map_filterMap]
    rw [← List.filterMap_eq_map]
    apply List.filterMap_congr
    intro child member
    obtain ⟨below, foundBelow, shown⟩ := ready child member
    simp only [foundBelow, Option.map_some, Entity.view, shown, Option.getD_some, Function.comp]
  intro other
  rw [decorateOne, get?_modify]
  by_cases same : other = id
  · subst same
    simp only [List.mem_singleton, if_true, foundPresent, Option.map_some]
    rw [views, aggregate_eq_nodeTotals, sameRaw, ← totals_found wf metrics found]
  · simp only [List.mem_singleton, same, if_false]

/-- The pass over a subtree, started on any index with the same tree and the same set values. -/
theorem shows_postOrder {index : EntityIndex} (wf : index.WellFormed) (metrics : List Metric)
    (id : EntityId) (current : EntityIndex) (agree : Agree Entity.undecorated index current) :
    Shows (index.totals metrics) (index.postOrder id) current
      ((index.postOrder id).foldl (decorateOne metrics) current) := by
  induction id using wf.induction_up generalizing current with
  | missing id absent =>
    rw [postOrder_missing absent]
    intro other
    rfl
  | node id entity found ih =>
    -- The subtrees of the children come first, one after the other.
    have below : ∀ (children : List EntityId) (start : EntityIndex),
        (∀ child ∈ children, child ∈ entity.children) → Agree Entity.undecorated index start →
        Shows (index.totals metrics) (children.flatMap index.postOrder) start
          ((children.flatMap index.postOrder).foldl (decorateOne metrics) start) := by
      intro children
      induction children with
      | nil => intro start _ _ other; rfl
      | cons child rest ihRest =>
        intro start listed alike
        rw [List.flatMap_cons, List.foldl_append]
        have first := ih child (listed child (List.mem_cons_self ..)) start alike
        have still := alike.trans (agree_foldl_decorateOne metrics (index.postOrder child) start)
        exact first.append
          (ihRest _ (fun other member => listed other (List.mem_cons_of_mem _ member)) still)
    have shown := below entity.children current (fun _ member => member) agree
    have still := agree.trans
      (agree_foldl_decorateOne metrics (entity.children.flatMap index.postOrder) current)
    rw [postOrder_found wf found, List.foldl_append]
    refine shown.append (shows_decorateOne wf still metrics found ?_)
    intro child member
    obtain ⟨lower, foundLower, _⟩ := wf.linked found member
    obtain ⟨present, foundPresent, _⟩ := agree.found foundLower
    have visited : child ∈ entity.children.flatMap index.postOrder :=
      List.mem_flatMap.mpr ⟨child, member, (mem_postOrder_iff wf).mpr (.self foundLower)⟩
    refine ⟨{ present with decorated? := some (index.totals metrics child) }, ?_, rfl⟩
    rw [shown child, if_pos visited, foundPresent, Option.map_some]

def decorateAll (index : EntityIndex) (passes : List (List Metric × EntityId)) : EntityIndex :=
  passes.foldl (fun index pass => (index.decorate pass.1 pass.2).1) index

theorem agree_decorateAll (passes : List (List Metric × EntityId)) (index : EntityIndex) :
    Agree Entity.undecorated index (index.decorateAll passes) := by
  induction passes generalizing index with
  | nil => exact Agree.refl _ index
  | cons pass rest ih => exact (agree_decorate pass.1 index pass.2).trans (ih _)

theorem length_postOrder {index : EntityIndex} (wf : index.WellFormed) (top : EntityId) :
    (index.postOrder top).length = { id | index.Within top id }.ncard := by
  have nodup : (index.postOrder top).Nodup :=
    (postOrder_perm_subtree wf top).nodup_iff.mpr (subtree_nodup wf top)
  have members : { id | index.Within top id } = ↑(index.postOrder top).toFinset := by
    ext id
    rw [Set.mem_ofPred_eq, List.coe_toFinset, Set.mem_ofPred_eq, mem_postOrder_iff wf]
  rw [members, Set.ncard_coe_finset, List.toFinset_card_of_nodup nodup]

/-- On every index that a run leads to, a pass at an entity gives each entity of its subtree the
totals of the recursion, changes nothing else and counts the subtree. The totals are those of the
tree of set values, so passes made before it make no difference. -/
theorem decorate_eq_totals (project : Entity) (calls : List IndexCall) (metrics : List Metric)
    (top : EntityId) :
    let index := (ofProject project).run calls
    let after := (index.decorate metrics top).1
    (∀ id entity, index.Within top id → index.get? id = some entity →
      after.get? id = some { entity with decorated? := some (index.totals metrics id) }) ∧
    (∀ id entity, index.get? id = some entity →
      index.totals metrics id =
        nodeTotals metrics entity.raw (entity.children.map (index.totals metrics))) ∧
    (∀ passes id, index.Within top id →
      ((((index.decorateAll passes).decorate metrics top).1.get? id).bind Entity.decorated?) =
        some (index.totals metrics id)) ∧
    (∀ id, ¬index.Within top id → after.get? id = index.get? id) ∧
    after.keys = index.keys ∧ after.size = index.size ∧ after.slots.size = index.slots.size ∧
    (index.decorate metrics top).2 = { id | index.Within top id }.ncard := by
  intro index after
  have wf : index.WellFormed := wellFormed_run_ofProject project calls
  have agree : Agree Entity.undecorated index after := agree_decorate metrics index top
  have shown : Shows (index.totals metrics) (index.postOrder top) index after :=
    shows_postOrder wf metrics top index (Agree.refl _ index)
  refine ⟨?_, fun id entity => totals_found wf metrics, ?_, ?_, agree.keys, agree.size,
    agree.slots, length_postOrder wf top⟩
  · intro id entity inside found
    rw [shown id, if_pos ((mem_postOrder_iff wf).mpr inside), found, Option.map_some]
  · intro passes id inside
    have earlier := agree_decorateAll passes index
    have again := shows_postOrder wf metrics top (index.decorateAll passes) earlier id
    obtain ⟨entity, found⟩ := inside.live wf
    obtain ⟨present, foundPresent, _⟩ := earlier.found found
    rw [if_pos ((mem_postOrder_iff wf).mpr inside), foundPresent, Option.map_some] at again
    rw [decorate, postOrder_agree earlier, again, Option.bind_some]
  · intro id outside
    rw [shown id, if_neg fun visited => outside ((mem_postOrder_iff wf).mp visited)]

end EntityIndex

end CodeMetrics
