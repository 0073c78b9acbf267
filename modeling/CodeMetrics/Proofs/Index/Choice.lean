import CodeMetrics.Proofs.Metric.Inputs

/-!
Decoration with a choice of standard metrics. Each total is a recursion over the tree that looks at
one name only, so what else is chosen, in which order and how often makes no difference to it. A
formula gives the same value whether the pass enters it into the totals or a reader computes it
from them.
-/

namespace CodeMetrics

/-- Entities that differ at most in the order in which their totals were entered. -/
structure Entity.ShowsSame (first second : Entity) : Prop where
  undecorated : first.undecorated = second.undecorated
  decorated : Option.Rel Measures.Same first.decorated? second.decorated?

theorem Entity.ShowsSame.refl (entity : Entity) : entity.ShowsSame entity := by
  refine ⟨rfl, ?_⟩
  cases entity.decorated? with
  | none => exact .none
  | some totals => exact .some (.refl totals)

namespace EntityIndex

variable {index : EntityIndex}

def decorateWith (index : EntityIndex) (choice : List StandardMetric) (top : EntityId) :
    EntityIndex :=
  (index.decorate (choice.map StandardMetric.metric) top).1

def totalsWith (index : EntityIndex) (choice : List StandardMetric) (id : EntityId) : Measures :=
  index.totals (choice.map StandardMetric.metric) id

def total (index : EntityIndex) (name : String) (id : EntityId) : Float :=
  foldTree 0.0 (fun _ entity below => entity.raw.value name + below.foldl (· + ·) (-0.0)) index id

theorem total_found (wf : index.WellFormed) (name : String) {id : EntityId} {entity : Entity}
    (found : index.get? id = some entity) :
    index.total name id =
      entity.raw.value name + (entity.children.map (index.total name)).foldl (· + ·) (-0.0) :=
  foldTree_found _ _ wf found

theorem totalsWith_found (wf : index.WellFormed) (choice : List StandardMetric) {id : EntityId}
    {entity : Entity} (found : index.get? id = some entity) :
    index.totalsWith choice id = nodeTotals (choice.map StandardMetric.metric) entity.raw
      (entity.children.map (index.totalsWith choice)) :=
  totals_found wf _ found

/-! What a pass leaves behind. -/

theorem get?_decorateWith (wf : index.WellFormed) (choice : List StandardMetric)
    {top id : EntityId} {entity : Entity} (inside : index.Within top id)
    (found : index.get? id = some entity) :
    (index.decorateWith choice top).get? id =
      some { entity with decorated? := some (index.totalsWith choice id) } := by
  have shown := shows_postOrder wf (choice.map StandardMetric.metric) top index (Agree.refl _ index)
  rw [decorateWith, decorate, shown id, if_pos ((mem_postOrder_iff wf).mpr inside), found,
    Option.map_some, totalsWith]

theorem get?_decorateWith_outside (wf : index.WellFormed) (choice : List StandardMetric)
    {top id : EntityId} (outside : ¬index.Within top id) :
    (index.decorateWith choice top).get? id = index.get? id := by
  have shown := shows_postOrder wf (choice.map StandardMetric.metric) top index (Agree.refl _ index)
  rw [decorateWith, decorate, shown id,
    if_neg fun visited => outside ((mem_postOrder_iff wf).mp visited)]

/-! The totals of the tree, by induction from the leaves up. -/

/-- A metric that adds up has its own total where it is chosen, and is left as it was set where it
is not. -/
theorem get?_totalsWith_sum (wf : index.WellFormed) (choice : List StandardMetric)
    {standard : StandardMetric} (adds : standard.isFormula = false) (id : EntityId)
    {entity : Entity} (found : index.get? id = some entity) :
    (index.totalsWith choice id).get? standard.name =
      if standard ∈ choice then some (index.total standard.name id)
      else entity.raw.get? standard.name := by
  induction id using wf.induction_up generalizing entity with
  | missing id absent =>
    rw [absent] at found
    cases found
  | node id known foundKnown ih =>
    cases foundKnown.symm.trans found
    rw [totalsWith_found wf choice found, StandardMetric.get?_nodeTotals_sum choice _ _ adds]
    by_cases chosen : standard ∈ choice
    · have below : ∀ child ∈ known.children,
          (index.totalsWith choice child).value standard.name =
            index.total standard.name child := by
        intro child member
        obtain ⟨lower, foundLower, _⟩ := wf.linked found member
        rw [Measures.value, ih child member foundLower, if_pos chosen, Option.getD_some]
      rw [if_pos chosen, if_pos chosen, nodeTotal, total_found wf _ found, List.foldl_map,
        List.foldl_map]
      congr 2
      apply List.foldl_ext
      intro sum child member
      rw [below child member]
    · rw [if_neg chosen, if_neg chosen]

/-- Choices with the same sums give every entity the same sums. -/
theorem sameSums_totalsWith (wf : index.WellFormed) {first second : List StandardMetric}
    (sums : ∀ standard : StandardMetric, standard.isFormula = false →
      (standard ∈ first ↔ standard ∈ second))
    {id : EntityId} {entity : Entity} (found : index.get? id = some entity) :
    SameSums (index.totalsWith first id) (index.totalsWith second id) := by
  intro standard adds
  rw [Measures.value, Measures.value, get?_totalsWith_sum wf first adds id found,
    get?_totalsWith_sum wf second adds id found]
  simp only [sums standard adds]

/-- The entry of a formula that is chosen is its value on the totals. -/
theorem get?_totalsWith_formula (wf : index.WellFormed) (choice : List StandardMetric)
    {standard : StandardMetric} {formula : Measures → Float}
    (known : standard.formula? = some formula) {id : EntityId} {entity : Entity}
    (found : index.get? id = some entity) :
    (index.totalsWith choice id).get? standard.name =
      if standard ∈ choice then some (formula (index.totalsWith choice id))
      else entity.raw.get? standard.name := by
  rw [totalsWith_found wf choice found, StandardMetric.get?_nodeTotals_formula choice _ _ known]

/-- Choices with the same elements give every entity the same totals. -/
theorem same_totalsWith (wf : index.WellFormed) {first second : List StandardMetric}
    (elements : ∀ standard, standard ∈ first ↔ standard ∈ second) (id : EntityId) :
    Measures.Same (index.totalsWith first id) (index.totalsWith second id) := by
  induction id using wf.induction_up with
  | missing id absent =>
    have bare : index.valueTree id = .node .empty [] := foldTree_missing _ _ absent
    rw [totalsWith, totalsWith, totals, totals, bare, ValueTree.totals_node, ValueTree.totals_node]
    exact StandardMetric.same_nodeTotals _ elements fun _ => rfl
  | node id entity found ih =>
    rw [totalsWith_found wf first found, totalsWith_found wf second found]
    refine StandardMetric.same_nodeTotals _ elements fun name => ?_
    rw [nodeTotal, nodeTotal, List.foldl_map, List.foldl_map]
    congr 1
    apply List.foldl_ext
    intro sum child member
    rw [(ih child member).value name]

/-! What a reader sees. -/

theorem measure_of_formula {entity : Entity} {standard : StandardMetric}
    {formula : Measures → Float} (known : standard.formula? = some formula)
    (entry : entity.view.get? standard.name = some (formula entity.view) ∨
      entity.view.get? standard.name = none) :
    entity.measure standard.metric = formula entity.view := by
  rw [Entity.measure, StandardMetric.metric]
  rcases entry with entered | absent
  · simp only [entered]
  · simp only [absent, known]

theorem measure_of_sum {entity : Entity} {standard : StandardMetric}
    (adds : standard.isFormula = false) :
    entity.measure standard.metric = entity.view.value standard.name := by
  have plain : standard.formula? = none := by
    by_contra present
    rw [standard.isFormula_iff.2 (Option.ne_none_iff_exists'.1 present)] at adds
    cases adds
  rw [Entity.measure, StandardMetric.metric, Measures.value]
  cases entity.view.get? standard.name with
  | none => simp only [plain, Option.getD_none]
  | some value => rfl

/-- On every index that a run leads to, a pass with a choice of standard metrics and a pass with the
same choice but for its formulas show the same value of every standard metric on each entity that
they visit, as long as no formula was set there as a value. The first pass has entered the chosen
formulas into the totals, the second one none, so that there each of them is computed when it is
asked for. -/
theorem decorate_formulas_on_demand (project : Entity) (calls : List IndexCall)
    (choice : List StandardMetric) (top id : EntityId) (entity : Entity) :
    let index := (ofProject project).run calls
    let sumsAlone := choice.filter fun standard => !standard.isFormula
    index.Within top id → index.get? id = some entity →
    (∀ standard : StandardMetric, standard.isFormula = true →
      entity.raw.get? standard.name = none) →
    ∃ full plain, (index.decorateWith choice top).get? id = some full ∧
      (index.decorateWith sumsAlone top).get? id = some plain ∧
      (∀ standard : StandardMetric,
        full.measure standard.metric = plain.measure standard.metric) ∧
      ∀ standard : StandardMetric, standard.isFormula = true →
        (full.view.contains standard.name = true ↔ standard ∈ choice) ∧
        plain.view.contains standard.name = false := by
  intro index sumsAlone inside found unset
  have wf : index.WellFormed := wellFormed_run_ofProject project calls
  have kept : ∀ standard : StandardMetric, standard.isFormula = false →
      (standard ∈ choice ↔ standard ∈ sumsAlone) := by
    intro standard adds
    simp [sumsAlone, adds]
  have dropped : ∀ standard : StandardMetric, standard.isFormula = true →
      standard ∉ sumsAlone := by
    intro standard isFormula
    simp [sumsAlone, isFormula]
  have sums := sameSums_totalsWith wf kept found
  -- A formula reads sums alone, so it does not matter which other formulas were entered.
  have entered : ∀ (standard : StandardMetric) (formula : Measures → Float),
      standard.formula? = some formula → (index.totalsWith choice id).get? standard.name =
        if standard ∈ choice then some (formula (index.totalsWith choice id)) else none := by
    intro standard formula known
    rw [get?_totalsWith_formula wf choice known found,
      unset standard (standard.isFormula_iff.2 ⟨formula, known⟩)]
  have missing : ∀ standard : StandardMetric, standard.isFormula = true →
      (index.totalsWith sumsAlone id).get? standard.name = none := by
    intro standard isFormula
    obtain ⟨formula, known⟩ := standard.isFormula_iff.1 isFormula
    rw [get?_totalsWith_formula wf sumsAlone known found, if_neg (dropped standard isFormula),
      unset standard isFormula]
  refine ⟨_, _, get?_decorateWith wf choice inside found,
    get?_decorateWith wf sumsAlone inside found, ?_, ?_⟩
  · intro standard
    cases isFormula : standard.isFormula with
    | false =>
      rw [measure_of_sum isFormula, measure_of_sum isFormula]
      exact sums standard isFormula
    | true =>
      obtain ⟨formula, known⟩ := standard.isFormula_iff.1 isFormula
      have direct := entered standard formula known
      rw [measure_of_formula known, measure_of_formula known]
      · exact sums.formula_eq known
      · exact .inr (missing standard isFormula)
      · by_cases chosen : standard ∈ choice
        · exact .inl (direct.trans (if_pos chosen))
        · exact .inr (direct.trans (if_neg chosen))
  · intro standard isFormula
    obtain ⟨formula, known⟩ := standard.isFormula_iff.1 isFormula
    constructor
    · change ((index.totalsWith choice id).get? standard.name).isSome = true ↔ _
      rw [entered standard formula known]
      split <;> simp_all
    · change ((index.totalsWith sumsAlone id).get? standard.name).isSome = false
      rw [missing standard isFormula, Option.isSome_none]

def coupledFile : List IndexCall :=
  [.insert root { kind := .package, key := "a" }, .insert 1 { kind := .file, key := "b" },
    .setMeasure 1 StandardMetric.ca.metric 1, .setMeasure 2 StandardMetric.ce.metric 3]

theorem within_coupledFile :
    ((ofProject { kind := .project, key := "p" }).run coupledFile).Within root 1 := by
  obtain ⟨project, found, listed⟩ : ∃ project,
      ((ofProject { kind := .project, key := "p" }).run coupledFile).get? root = some project ∧
        project.children.contains 1 = true := (Option.any_eq_true _ _).mp (by decide +kernel)
  exact .child (.self found) found (List.contains_iff_mem.1 listed)

theorem decorate_distance_on_demand :
    let index := (ofProject { kind := .project, key := "p" }).run coupledFile
    let choice : List StandardMetric := [.distance, .ce, .instability, .ca]
    ∃ entity full plain, index.Within root 1 ∧ index.get? 1 = some entity ∧
      (∀ standard : StandardMetric, standard.isFormula = true →
        entity.raw.get? standard.name = none) ∧
      (index.decorateWith choice root).get? 1 = some full ∧
      (index.decorateWith [.ce, .ca] root).get? 1 = some plain ∧
      full.view.contains "distance" = true ∧ plain.view.contains "distance" = false ∧
      full.measure StandardMetric.distance.metric =
        plain.measure StandardMetric.distance.metric := by
  intro index choice
  obtain ⟨entity, found, bare⟩ : ∃ entity, index.get? 1 = some entity ∧
      StandardMetric.all.all (fun standard =>
        !standard.isFormula || (entity.raw.get? standard.name).isNone) = true :=
    (Option.any_eq_true _ _).mp (by decide +kernel)
  have unset : ∀ standard : StandardMetric, standard.isFormula = true →
      entity.raw.get? standard.name = none := by
    intro standard isFormula
    simpa [isFormula] using List.all_eq_true.1 bare standard standard.mem_all
  obtain ⟨full, plain, shownFull, shownPlain, same, entries⟩ :=
    decorate_formulas_on_demand _ coupledFile choice root 1 entity within_coupledFile found unset
  have entered := entries .distance rfl
  exact ⟨entity, full, plain, within_coupledFile, found, unset, shownFull, shownPlain,
    entered.1.2 (List.mem_cons_self ..), entered.2, same .distance⟩

/-- Decoration depends on the set of the chosen standard metrics only: on every index that a run
leads to, two choices with the same elements leave the same entities with the same totals, and a
chosen metric that adds up has the total that it has when it is chosen alone, which is that of the
values set under its own name. -/
theorem decorate_depends_on_elements (project : Entity) (calls : List IndexCall)
    (first second : List StandardMetric)
    (elements : ∀ standard, standard ∈ first ↔ standard ∈ second) (top : EntityId) :
    let index := (ofProject project).run calls
    (∀ id, Option.Rel Entity.ShowsSame ((index.decorateWith first top).get? id)
      ((index.decorateWith second top).get? id)) ∧
    ∀ (choice : List StandardMetric) (standard : StandardMetric), standard ∈ choice →
      standard.isFormula = false → ∀ id, index.Within top id →
      ∃ among alone, (index.decorateWith choice top).get? id = some among ∧
        (index.decorateWith [standard] top).get? id = some alone ∧
        among.decorated?.bind (·.get? standard.name) = some (index.total standard.name id) ∧
        alone.decorated?.bind (·.get? standard.name) = some (index.total standard.name id) ∧
        among.measure standard.metric = alone.measure standard.metric := by
  intro index
  have wf : index.WellFormed := wellFormed_run_ofProject project calls
  constructor
  · intro id
    by_cases inside : index.Within top id
    · obtain ⟨entity, found⟩ := inside.live wf
      rw [get?_decorateWith wf first inside found, get?_decorateWith wf second inside found]
      exact .some ⟨rfl, .some (same_totalsWith wf elements id)⟩
    · rw [get?_decorateWith_outside wf first inside, get?_decorateWith_outside wf second inside]
      cases index.get? id with
      | none => exact .none
      | some entity => exact .some (.refl entity)
  · intro choice standard chosen adds id inside
    obtain ⟨entity, found⟩ := inside.live wf
    have among := get?_totalsWith_sum wf choice adds id found
    have alone := get?_totalsWith_sum wf [standard] adds id found
    rw [if_pos chosen] at among
    rw [if_pos (List.mem_singleton_self standard)] at alone
    refine ⟨_, _, get?_decorateWith wf choice inside found,
      get?_decorateWith wf [standard] inside found, among, alone, ?_⟩
    rw [measure_of_sum adds, measure_of_sum adds]
    change (index.totalsWith choice id).value _ = (index.totalsWith [standard] id).value _
    rw [Measures.value, Measures.value, among, alone]

theorem decorate_repeated_elements :
    let first : List StandardMetric := [.instability, .lines, .ca, .ce]
    let second : List StandardMetric := [.ce, .ca, .lines, .ca, .instability, .lines]
    let index := (ofProject { kind := .project, key := "p" }).run coupledFile
    (∀ standard, standard ∈ first ↔ standard ∈ second) ∧
    (∀ id, Option.Rel Entity.ShowsSame ((index.decorateWith first root).get? id)
      ((index.decorateWith second root).get? id)) ∧
    ∃ among alone, (index.decorateWith first root).get? 1 = some among ∧
      (index.decorateWith [.ce] root).get? 1 = some alone ∧
      among.measure StandardMetric.ce.metric = alone.measure StandardMetric.ce.metric := by
  intro first second index
  have elements : ∀ standard, standard ∈ first ↔ standard ∈ second := by
    intro standard
    cases standard <;> decide
  obtain ⟨same, alone⟩ := decorate_depends_on_elements _ coupledFile first second elements root
  obtain ⟨among, single, shownAmong, shownSingle, _, _, equal⟩ :=
    alone first .ce (by decide) rfl 1 within_coupledFile
  exact ⟨elements, same, among, single, shownAmong, shownSingle, equal⟩

end EntityIndex

end CodeMetrics
