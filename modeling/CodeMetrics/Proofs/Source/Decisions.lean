import CodeMetrics.Proofs.Text.Blank
import CodeMetrics.Proofs.Text.Segment
import CodeMetrics.Source.Basic
import Mathlib.Algebra.BigOperators.Group.List.Basic
import Mathlib.Algebra.GroupWithZero.Nat

/-!
The decision points of two texts of code that are joined. A space between them keeps their decision
points apart. Without one, the words at the seam become one word, which may hide keywords or make
one, and two halves of an operator may meet. The complexity of a text is one more than the decision
points on its lines with code.
-/

namespace CodeMetrics

def wordBefore (code : List Char) : List Char :=
  code.rtakeWhile fun c => !isCodeSeparator c

def wordAfter (code : List Char) : List Char :=
  code.takeWhile fun c => !isCodeSeparator c

/-- Whether two texts of code end and begin with words, which become one word when the texts are
joined. -/
def JoinsWords (left right : List Char) : Prop :=
  wordBefore left ≠ [] ∧ wordAfter right ≠ []

instance (left right : List Char) : Decidable (JoinsWords left right) :=
  inferInstanceAs (Decidable (_ ∧ _))

/-- Whether an operator of two equal characters is put together from the one that is left over
before a seam and the one behind it. -/
def completes (operator left right : List Char) : Bool :=
  match operator with
  | [c, _] =>
    (left.rtakeWhile (· == c)).length % 2 == 1 && (right.takeWhile (· == c)).length % 2 == 1
  | _ => false

theorem occurrences_append_completes {operator : List Char}
    (shape : ∃ c, operator = [c] ∨ operator = [c, c]) (left right : List Char) :
    Text.occurrences operator (left ++ right) =
      Text.occurrences operator left + Text.occurrences operator right +
        (completes operator left right).toNat := by
  obtain ⟨c, rfl | rfl⟩ := shape
  · rw [Text.occurrences_single_append]
    rfl
  · rw [Text.occurrences_pair_append, completes]
    congr 1
    split
    · next odd => simp [odd]
    · next even =>
      rw [eq_comm, Bool.toNat_eq_zero, Bool.and_eq_false_iff]
      by_contra both
      simp only [beq_eq_false_iff_ne, ne_eq, not_or, not_not] at both
      exact even both

theorem sum_map_eq_zero {α : Type} {entries : List α} {count : α → Nat}
    (zero : ∀ entry ∈ entries, count entry = 0) : (entries.map count).sum = 0 := by
  apply List.sum_eq_zero
  intro total found
  obtain ⟨entry, known, rfl⟩ := List.mem_map.1 found
  exact zero entry known

theorem isCodeSeparator_of_isBlank {c : Char} (blank : Text.isBlank c = true) :
    isCodeSeparator c = true :=
  of_isBlank (motive := fun c => isCodeSeparator c = true) (by decide +kernel) blank

namespace Language

def keywordTexts (language : Language) : List (List Char) :=
  language.branchKeywords.map String.toList

def operatorTexts (language : Language) : List (List Char) :=
  language.branchOperators.map String.toList

def keywordCount (language : Language) (code : List Char) : Nat :=
  (Text.segments isCodeSeparator code).countP fun word => language.keywordTexts.contains word

def operatorCount (language : Language) (code : List Char) : Nat :=
  (language.operatorTexts.map fun operator => Text.occurrences operator code).sum

/-- The keywords at the seam of two texts that are no words of their own once the texts are
joined. -/
def hiddenKeywords (language : Language) (left right : List Char) : Nat :=
  if JoinsWords left right then
    (language.keywordTexts.contains (wordBefore left)).toNat +
      (language.keywordTexts.contains (wordAfter right)).toNat
  else 0

def madeKeywords (language : Language) (left right : List Char) : Nat :=
  if JoinsWords left right then
    (language.keywordTexts.contains (wordBefore left ++ wordAfter right)).toNat
  else 0

def madeOperators (language : Language) (left right : List Char) : Nat :=
  language.operatorTexts.countP fun operator => completes operator left right

variable (language : Language)

theorem decisions_eq (code : List Char) :
    language.decisions code = language.keywordCount code + language.operatorCount code := by
  rw [decisions, keywordCount, operatorCount, List.sum_eq_foldr]
  rfl

theorem nil_not_mem_keywordTexts : [] ∉ language.keywordTexts := by
  cases language <;> decide +kernel

/-- An operator is a single character, or one character twice. -/
theorem operatorTexts_cases :
    ∀ operator ∈ language.operatorTexts, ∃ c, operator = [c] ∨ operator = [c, c] := by
  cases language <;> simp [operatorTexts, branchOperators]

/-! Texts with a space between them. -/

theorem keywordCount_space (left right : List Char) :
    language.keywordCount (left ++ ' ' :: right) =
      language.keywordCount left + language.keywordCount right := by
  have separates : isCodeSeparator ' ' = true := by decide +kernel
  rw [keywordCount, Text.segments_append_separator separates, List.countP_append]
  rfl

theorem operatorCount_space (left right : List Char) :
    language.operatorCount (left ++ ' ' :: right) =
      language.operatorCount left + language.operatorCount right := by
  have foreign : ∀ operator ∈ language.operatorTexts, operator ≠ [] ∧ ' ' ∉ operator := by
    cases language <;> simp [operatorTexts, branchOperators]
  rw [operatorCount, operatorCount, operatorCount, ← List.sum_map_add]
  congr 1
  apply List.map_congr_left
  intro operator known
  obtain ⟨nonempty, spaceless⟩ := foreign operator known
  exact Text.occurrences_append_foreign nonempty spaceless left right

/-- A space keeps the decision points before it apart from those after it. -/
theorem decisions_space (left right : List Char) :
    language.decisions (left ++ ' ' :: right) =
      language.decisions left + language.decisions right := by
  rw [decisions_eq, decisions_eq, decisions_eq, keywordCount_space, operatorCount_space]
  omega

/-! Texts with nothing between them. -/

theorem keywordCount_append (left right : List Char) :
    language.keywordCount (left ++ right) + language.hiddenKeywords left right =
      language.keywordCount left + language.keywordCount right +
        language.madeKeywords left right := by
  obtain ⟨early, late, before, after, joined⟩ :=
    Text.exists_segments_append isCodeSeparator left right
  have wordless : language.keywordTexts.contains [] = false := by
    simpa using language.nil_not_mem_keywordTexts
  have one : ∀ word, (if language.keywordTexts.contains word = true then 1 else 0) =
      (language.keywordTexts.contains word).toNat := by
    intro word
    cases language.keywordTexts.contains word <;> rfl
  rw [keywordCount, keywordCount, keywordCount, before, after, joined]
  simp only [List.countP_append, List.countP_cons, List.countP_nil, one]
  simp only [← wordBefore.eq_1, ← wordAfter.eq_1, hiddenKeywords, madeKeywords]
  -- Where one of the words is empty, the other one stays what it is.
  by_cases joins : JoinsWords left right
  · rw [if_pos joins, if_pos joins]
    omega
  · rw [if_neg joins, if_neg joins]
    by_cases empty : wordBefore left = []
    · rw [empty, List.nil_append, wordless]
      simp only [Bool.toNat_false]
      omega
    · have other : wordAfter right = [] := by
        by_contra nonempty
        exact joins ⟨empty, nonempty⟩
      rw [other, List.append_nil, wordless]
      simp only [Bool.toNat_false]
      omega

theorem operatorCount_append (left right : List Char) :
    language.operatorCount (left ++ right) =
      language.operatorCount left + language.operatorCount right +
        language.madeOperators left right := by
  have shapes := language.operatorTexts_cases
  rw [operatorCount, operatorCount, operatorCount, madeOperators]
  generalize language.operatorTexts = operators at *
  induction operators with
  | nil => rfl
  | cons operator others ih =>
    rw [List.forall_mem_cons] at shapes
    have first := occurrences_append_completes shapes.1 left right
    have rest := ih shapes.2
    simp only [List.map_cons, List.sum_cons, List.countP_cons]
    cases met : completes operator left right with
    | false =>
      rw [met, Bool.toNat_false] at first
      simp only [Bool.false_eq_true, if_false]
      omega
    | true =>
      rw [met, Bool.toNat_true] at first
      simp only [if_true]
      omega

/-- What joining two texts takes from their decision points and adds to them. -/
theorem decisions_append (left right : List Char) :
    language.decisions (left ++ right) + language.hiddenKeywords left right =
      language.decisions left + language.decisions right +
        (language.madeKeywords left right + language.madeOperators left right) := by
  have keywords := language.keywordCount_append left right
  have operators := language.operatorCount_append left right
  rw [decisions_eq, decisions_eq, decisions_eq]
  omega

/-! Texts without any code. -/

theorem decisions_blank {code : List Char} (blank : ∀ c ∈ code, Text.isBlank c = true) :
    language.decisions code = 0 := by
  have separators : ∀ c ∈ code, isCodeSeparator c = true := fun c found =>
    isCodeSeparator_of_isBlank (blank c found)
  have keywords : language.keywordCount code = 0 := by
    rw [keywordCount, List.countP_eq_zero]
    intro word found
    rw [Text.segments_separators separators word found]
    simpa using language.nil_not_mem_keywordTexts
  have visible : ∀ operator ∈ language.operatorTexts,
      ∃ first, operator.head? = some first ∧ Text.isBlank first = false := by
    cases language <;> simp [operatorTexts, branchOperators] <;> decide
  have operators : language.operatorCount code = 0 := by
    apply sum_map_eq_zero
    intro operator known
    obtain ⟨first, begins, shown⟩ := visible operator known
    apply Text.occurrences_eq_zero begins
    intro present
    cases (blank first present).symm.trans shown
  rw [decisions_eq, keywords, operators]

/-! The decision points of classified lines. -/

def decisionsOf (language : Language) (lines : List Line) : Nat :=
  ((lines.filter Line.hasCode).map fun line => language.decisions line.bareCode).sum

theorem complexity_eq_decisionsOf (recognizer : Recognizer) (text : List Char) :
    language.complexity recognizer text =
      1 + language.decisionsOf (language.source recognizer text).lines := by
  rw [complexity, decisionsOf, List.sum_eq_foldr]
  rfl

end Language

end CodeMetrics
