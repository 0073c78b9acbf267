import CodeMetrics.Metric
import CodeMetrics.Proofs.Index.Totals

/-!
What the totals of one entity depend on. A formula reads sums only, and no sum goes by the name of a
formula. So it makes no difference when a formula is computed: on the table that the pass is still
extending or on the finished one, before or after another formula. The totals of an entity are its
set values, filled up under the names of the sums and then under those of the formulas, with values
that are fixed beforehand.
-/

namespace CodeMetrics

namespace Measures

/-! Filling a table under several names. -/

def fill (table : Measures) (values : String → Float) (names : List String) : Measures :=
  names.foldl (fun table name => table.set name (values name)) table

theorem fill_cons (table : Measures) (values : String → Float) (name : String)
    (names : List String) :
    table.fill values (name :: names) = (table.set name (values name)).fill values names :=
  rfl

theorem get?_fill (table : Measures) (values : String → Float) (names : List String)
    (name : String) :
    (table.fill values names).get? name =
      if name ∈ names then some (values name) else table.get? name := by
  induction names generalizing table with
  | nil => simp [fill]
  | cons first others ih =>
    rw [fill_cons, ih, get?_set]
    by_cases later : name ∈ others
    · rw [if_pos later, if_pos (List.mem_cons_of_mem _ later)]
    · by_cases now : name = first
      · subst now
        rw [if_neg later, if_pos rfl, if_pos (List.mem_cons_self ..)]
      · rw [if_neg later, if_neg now, if_neg (by simp [now, later])]

theorem contains_fill (table : Measures) (values : String → Float) (names : List String)
    (name : String) :
    (table.fill values names).contains name = (decide (name ∈ names) || table.contains name) := by
  rw [contains, get?_fill]
  by_cases member : name ∈ names
  · simp [member]
  · simp [member, contains]

theorem length_setEntry (name : String) (value : Float) (entries : List (String × Float)) :
    (setEntry name value entries).length =
      if (entries.lookup name).isSome then entries.length else entries.length + 1 := by
  induction entries with
  | nil => rfl
  | cons entry rest ih => grind [setEntry]

theorem size_set (table : Measures) (name : String) (value : Float) :
    (table.set name value).size = if table.contains name then table.size else table.size + 1 :=
  length_setEntry name value table.entries

/-- Filling adds one entry for each name that is new. -/
theorem size_fill (table : Measures) (values : String → Float) (names : List String) :
    (table.fill values names).size =
      table.size + (names.toFinset.filter fun name => table.contains name = false).card := by
  induction names generalizing table with
  | nil => simp [fill]
  | cons first others ih =>
    have grown : ∀ name, (table.set first (values first)).contains name =
        (decide (name = first) || table.contains name) := by
      intro name
      simpa [fill] using table.contains_fill values [first] name
    rw [fill_cons, ih, size_set]
    cases known : table.contains first with
    | true =>
      have same : (others.toFinset.filter fun name =>
            (table.set first (values first)).contains name = false) =
          ((first :: others).toFinset.filter fun name => table.contains name = false) := by
        ext name
        by_cases now : name = first
        · simp [now, grown, known]
        · simp [now, grown]
      rw [if_pos rfl, same]
    | false =>
      have more : ((first :: others).toFinset.filter fun name => table.contains name = false) =
          insert first (others.toFinset.filter fun name =>
            (table.set first (values first)).contains name = false) := by
        ext name
        by_cases now : name = first
        · simp [now, known]
        · simp [now, grown]
      have fresh : first ∉ others.toFinset.filter fun name =>
          (table.set first (values first)).contains name = false := by
        simp [grown]
      rw [if_neg Bool.false_ne_true, more, Finset.card_insert_of_notMem fresh]
      omega

/-- Tables that nothing tells apart but the order of their entries. -/
structure Same (first second : Measures) : Prop where
  get? : ∀ name, first.get? name = second.get? name
  size : first.size = second.size

namespace Same

variable {first second : Measures}

theorem refl (table : Measures) : Same table table :=
  ⟨fun _ => rfl, rfl⟩

theorem value (same : Same first second) (name : String) :
    first.value name = second.value name := by
  rw [Measures.value, Measures.value, same.get?]

theorem fill (same : Same first second) {values others : String → Float}
    {names more : List String} (elements : ∀ name, name ∈ names ↔ name ∈ more)
    (alike : ∀ name ∈ names, values name = others name) :
    Same (first.fill values names) (second.fill others more) := by
  constructor
  · intro name
    rw [get?_fill, get?_fill, same.get?]
    by_cases member : name ∈ names
    · rw [if_pos member, if_pos ((elements name).1 member), alike name member]
    · rw [if_neg member, if_neg (mt (elements name).2 member)]
  · have sameNames : names.toFinset = more.toFinset := by
      ext name
      simp [elements name]
    have known : ∀ name, first.contains name = second.contains name := by
      intro name
      rw [contains, contains, same.get?]
    rw [size_fill, size_fill, same.size, sameNames]
    simp only [known]

end Same

end Measures

namespace StandardMetric

theorem ofName?_name (standard : StandardMetric) : ofName? standard.name = some standard := by
  cases standard <;> decide

theorem name_injective : Function.Injective name := by
  intro first second same
  have found := ofName?_name first
  rw [same, ofName?_name second] at found
  exact (Option.some.inj found).symm

theorem isFormula_iff (standard : StandardMetric) :
    standard.isFormula = true ↔ ∃ formula, standard.formula? = some formula := by
  rw [isFormula, decide_eq_true_iff, aggregation, ← Option.isSome_iff_exists]
  cases standard.formula?.isSome <;> simp

theorem aggregation_eq_sum_iff (standard : StandardMetric) :
    standard.aggregation = .sum ↔ standard.isFormula = false := by
  rw [isFormula, decide_eq_false_iff_not, aggregation]
  cases standard.formula?.isSome <;> simp

def formulaValue (table : Measures) (name : String) : Float :=
  (((ofName? name).bind formula?).map fun formula => formula table).getD 0.0

theorem formulaValue_name (table : Measures) {standard : StandardMetric}
    {formula : Measures → Float} (known : standard.formula? = some formula) :
    formulaValue table standard.name = formula table := by
  rw [formulaValue, ofName?_name, Option.bind_some, known, Option.map_some, Option.getD_some]

end StandardMetric

/-- Tables with the same values for all standard metrics that add up. -/
def SameSums (first second : Measures) : Prop :=
  ∀ standard : StandardMetric, standard.isFormula = false →
    first.value standard.name = second.value standard.name

namespace SameSums

variable {first second : Measures}

/-- A formula reads nothing but sums. -/
theorem formula_eq (same : SameSums first second) {standard : StandardMetric}
    {formula : Measures → Float} (known : standard.formula? = some formula) :
    formula first = formula second := by
  have ca := same .ca rfl
  have ce := same .ce rfl
  have interfaces := same .interfaces rfl
  have abstractClasses := same .abstractClasses rfl
  have classes := same .classes rfl
  have comments := same .commentLines rfl
  have code := same .linesOfCode rfl
  simp only [StandardMetric.name] at ca ce interfaces abstractClasses classes comments code
  have instability : Formula.instability first = Formula.instability second := by
    simp only [Formula.instability, ca, ce]
  have abstractness : Formula.abstractness first = Formula.abstractness second := by
    simp only [Formula.abstractness, interfaces, abstractClasses, classes]
  cases standard <;> cases known
  · exact instability
  · exact abstractness
  · simp only [Formula.distance, instability, abstractness]
  · simp only [Formula.commentLinesDensity, comments, code]

theorem formulaValue_eq (same : SameSums first second) :
    StandardMetric.formulaValue first = StandardMetric.formulaValue second := by
  funext name
  rw [StandardMetric.formulaValue, StandardMetric.formulaValue]
  cases StandardMetric.ofName? name with
  | none => rfl
  | some standard =>
    rw [Option.bind_some]
    cases known : standard.formula? with
    | none => rfl
    | some formula => rw [Option.map_some, Option.map_some, same.formula_eq known]

/-- The value of a formula is kept apart from the sums. -/
theorem set_formula (table : Measures) {standard : StandardMetric}
    (isFormula : standard.isFormula = true) (value : Float) :
    SameSums (table.set standard.name value) table := by
  intro other adds
  have differs : other.name ≠ standard.name := by
    intro sameName
    rw [StandardMetric.name_injective sameName, isFormula] at adds
    cases adds
  rw [Measures.value, Measures.get?_set, if_neg differs, Measures.value]

end SameSums

/-! The totals of one entity. -/

/-- The total under one name: the own value and what the children show, added from left to right. -/
def nodeTotal (raw : Measures) (below : List Measures) (name : String) : Float :=
  raw.value name + below.foldl (fun sum child => sum + child.value name) (-0.0)

theorem foldl_withSum (raw : Measures) (below : List Measures) (metrics : List Metric)
    (table : Measures) :
    metrics.foldl (withSum raw below) table = table.fill (nodeTotal raw below)
      ((metrics.filter fun metric => metric.aggregation = .sum).map Metric.name) := by
  rw [Measures.fill, List.foldl_map, List.foldl_filter]
  congr 1
  funext table metric
  simp only [withSum, nodeTotal, decide_eq_true_eq]

namespace StandardMetric

variable (choice : List StandardMetric) (raw : Measures) (below : List Measures)

def sumNames : List String :=
  (choice.filter fun standard => !standard.isFormula).map name

def formulaNames : List String :=
  (choice.filter isFormula).map name

theorem mem_sumNames (standard : StandardMetric) :
    standard.name ∈ sumNames choice ↔ standard ∈ choice ∧ standard.isFormula = false := by
  rw [sumNames, List.mem_map_of_injective name_injective, List.mem_filter, Bool.not_eq_true']

theorem mem_formulaNames (standard : StandardMetric) :
    standard.name ∈ formulaNames choice ↔ standard ∈ choice ∧ standard.isFormula = true := by
  rw [formulaNames, List.mem_map_of_injective name_injective, List.mem_filter]

/-- The formulas are computed as if each of them saw the sums alone. -/
theorem foldl_withFormula (table : Measures) :
    (choice.map metric).foldl withFormula table =
      table.fill (formulaValue table) (formulaNames choice) := by
  induction choice generalizing table with
  | nil => rfl
  | cons first others ih =>
    rw [List.map_cons, List.foldl_cons, ih, formulaNames, formulaNames]
    cases isFormula : first.isFormula with
    | false =>
      have unchanged : withFormula table first.metric = table := by
        rw [withFormula, metric]
        simp only [first.aggregation_eq_sum_iff.2 isFormula]
      rw [unchanged, List.filter_cons_of_neg (by simp [isFormula])]
    | true =>
      obtain ⟨formula, known⟩ := first.isFormula_iff.1 isFormula
      have computed : withFormula table first.metric = table.set first.name (formula table) := by
        rw [withFormula, metric]
        simp only [known, of_decide_eq_true isFormula]
      rw [computed, (SameSums.set_formula table isFormula _).formulaValue_eq,
        List.filter_cons_of_pos isFormula, List.map_cons, Measures.fill_cons,
        formulaValue_name table known]

def sumsOf : Measures :=
  raw.fill (nodeTotal raw below) (sumNames choice)

theorem nodeTotals_eq_fill :
    nodeTotals (choice.map metric) raw below =
      (sumsOf choice raw below).fill (formulaValue (sumsOf choice raw below))
        (formulaNames choice) := by
  have names : ((choice.map metric).filter fun metric => metric.aggregation = .sum).map
      Metric.name = sumNames choice := by
    rw [List.filter_map, List.map_map, sumNames]
    congr 2
    funext standard
    rw [Function.comp_apply, metric, Bool.eq_iff_iff, decide_eq_true_iff, aggregation_eq_sum_iff,
      Bool.not_eq_true']
  rw [nodeTotals, foldl_withSum, names, foldl_withFormula, sumsOf]

theorem get?_nodeTotals (name : String) :
    (nodeTotals (choice.map metric) raw below).get? name =
      if name ∈ formulaNames choice then some (formulaValue (sumsOf choice raw below) name)
      else if name ∈ sumNames choice then some (nodeTotal raw below name)
      else raw.get? name := by
  rw [nodeTotals_eq_fill, Measures.get?_fill, sumsOf, Measures.get?_fill]

/-- The entry of a metric that adds up is its total where it is chosen. -/
theorem get?_nodeTotals_sum {standard : StandardMetric} (adds : standard.isFormula = false) :
    (nodeTotals (choice.map metric) raw below).get? standard.name =
      if standard ∈ choice then some (nodeTotal raw below standard.name)
      else raw.get? standard.name := by
  simp only [get?_nodeTotals, mem_formulaNames, mem_sumNames, adds, Bool.false_eq_true, and_false,
    and_true, if_false]

/-- The entry of a formula that is chosen is its value on the finished table. -/
theorem get?_nodeTotals_formula {standard : StandardMetric} {formula : Measures → Float}
    (known : standard.formula? = some formula) :
    (nodeTotals (choice.map metric) raw below).get? standard.name =
      if standard ∈ choice then some (formula (nodeTotals (choice.map metric) raw below))
      else raw.get? standard.name := by
  have isFormula := standard.isFormula_iff.2 ⟨formula, known⟩
  have finished : SameSums (sumsOf choice raw below)
      (nodeTotals (choice.map metric) raw below) := by
    intro other adds
    rw [nodeTotals_eq_fill, Measures.value, Measures.value, Measures.get?_fill, if_neg]
    rw [mem_formulaNames, adds]
    exact fun computed => Bool.false_ne_true computed.2
  simp only [get?_nodeTotals, mem_formulaNames, mem_sumNames, isFormula, Bool.true_eq_false,
    and_false, and_true, if_false, formulaValue_name _ known, finished.formula_eq known]

/-- Two choices of the same metrics give the same totals, where the children show the same. -/
theorem same_nodeTotals {first second : List StandardMetric} {below other : List Measures}
    (elements : ∀ standard, standard ∈ first ↔ standard ∈ second)
    (alike : ∀ name, nodeTotal raw below name = nodeTotal raw other name) :
    Measures.Same (nodeTotals (first.map metric) raw below)
      (nodeTotals (second.map metric) raw other) := by
  have sums : Measures.Same (sumsOf first raw below) (sumsOf second raw other) := by
    refine (Measures.Same.refl raw).fill (fun name => ?_) fun name _ => alike name
    simp only [sumNames, List.mem_map, List.mem_filter, elements]
  rw [nodeTotals_eq_fill, nodeTotals_eq_fill]
  refine sums.fill (fun name => ?_) fun name _ => ?_
  · simp only [formulaNames, List.mem_map, List.mem_filter, elements]
  · rw [SameSums.formulaValue_eq fun standard _ => sums.value standard.name]

end StandardMetric

end CodeMetrics
