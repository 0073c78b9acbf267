import CodeMetrics.Proofs.Text.Segment
import CodeMetrics.Recognition.Detector
import Mathlib.Data.Finset.Prod

/-!
Counting keywords. The words of a line are the longest stretches of it without a separator, said by
their positions and not by how the line is cut. A count of words adds up over separators, so it is
known from the lines without one; the count of a keyword detector is the number of words that are
keywords, whatever stands between them.
-/

namespace CodeMetrics

namespace Text

variable {isSeparator : Char → Bool}

def CutAt (isSeparator : Char → Bool) (text : List Char) (position : Nat) : Prop :=
  text[position]?.any isSeparator = true

instance (isSeparator : Char → Bool) (text : List Char) (position : Nat) :
    Decidable (CutAt isSeparator text position) :=
  inferInstanceAs (Decidable (_ = true))

/-- Whether the characters from position `first` on and before position `last` are a word: there is
one, none of them is a separator, and neither the character before nor the one behind could be
added. -/
structure IsWord (isSeparator : Char → Bool) (text : List Char) (first last : Nat) : Prop where
  nonempty : first < last
  inside : last ≤ text.length
  solid : ∀ position < last, first ≤ position → ¬CutAt isSeparator text position
  front : 0 < first → CutAt isSeparator text (first - 1)
  back : last < text.length → CutAt isSeparator text last

instance (isSeparator : Char → Bool) (text : List Char) (first last : Nat) :
    Decidable (IsWord isSeparator text first last) :=
  decidable_of_iff
    (first < last ∧ last ≤ text.length ∧
      (∀ position < last, first ≤ position → ¬CutAt isSeparator text position) ∧
      (0 < first → CutAt isSeparator text (first - 1)) ∧
      (last < text.length → CutAt isSeparator text last))
    ⟨fun word => ⟨word.1, word.2.1, word.2.2.1, word.2.2.2.1, word.2.2.2.2⟩,
      fun word => ⟨word.nonempty, word.inside, word.solid, word.front, word.back⟩⟩

/-- The words of a text, each by the position of its first character and the position behind its
last one. -/
def wordSpans (isSeparator : Char → Bool) (text : List Char) : Finset (Nat × Nat) :=
  (Finset.range text.length ×ˢ Finset.range (text.length + 1)).filter fun span =>
    IsWord isSeparator text span.1 span.2

def spanText (text : List Char) (span : Nat × Nat) : List Char :=
  (text.drop span.1).take (span.2 - span.1)

theorem mem_wordSpans {text : List Char} {span : Nat × Nat} :
    span ∈ wordSpans isSeparator text ↔ IsWord isSeparator text span.1 span.2 := by
  rw [wordSpans, Finset.mem_filter, Finset.mem_product, Finset.mem_range, Finset.mem_range]
  refine ⟨fun found => found.2, fun word => ⟨⟨?_, ?_⟩, word⟩⟩
  · exact Nat.lt_of_lt_of_le word.nonempty word.inside
  · exact Nat.lt_succ_of_le word.inside

/-! The words of a text in which a separator stands between two others. -/

section

variable {c : Char} {before after : List Char} {position first last : Nat}

theorem cutAt_append_left (early : position < before.length) :
    CutAt isSeparator (before ++ c :: after) position ↔ CutAt isSeparator before position := by
  rw [CutAt, List.getElem?_append_left early, CutAt]

theorem cutAt_append_middle (cut : isSeparator c = true) :
    CutAt isSeparator (before ++ c :: after) before.length := by
  simpa [CutAt] using cut

theorem cutAt_append_right :
    CutAt isSeparator (before ++ c :: after) (position + (before.length + 1)) ↔
      CutAt isSeparator after position := by
  have late : before.length ≤ position + (before.length + 1) := by omega
  have index : position + (before.length + 1) - before.length = position + 1 := by omega
  rw [CutAt, List.getElem?_append_right late, index, List.getElem?_cons_succ, CutAt]

theorem isWord_append_left (cut : isSeparator c = true) (early : last ≤ before.length) :
    IsWord isSeparator (before ++ c :: after) first last ↔
      IsWord isSeparator before first last := by
  have length : (before ++ c :: after).length = before.length + (after.length + 1) := by simp
  constructor
  · intro word
    have nonempty := word.nonempty
    refine ⟨nonempty, early, ?_, ?_, ?_⟩
    · intro position within reached separated
      exact word.solid position within reached ((cutAt_append_left (by omega)).2 separated)
    · intro positive
      exact (cutAt_append_left (by omega)).1 (word.front positive)
    · intro more
      exact (cutAt_append_left more).1 (word.back (by omega))
  · intro word
    have nonempty := word.nonempty
    refine ⟨nonempty, by omega, ?_, ?_, ?_⟩
    · intro position within reached separated
      exact word.solid position within reached ((cutAt_append_left (by omega)).1 separated)
    · intro positive
      exact (cutAt_append_left (by omega)).2 (word.front positive)
    · intro _
      -- A word that ends the first text is bounded by the separator itself.
      rcases Nat.lt_or_eq_of_le early with more | rfl
      · exact (cutAt_append_left more).2 (word.back more)
      · exact cutAt_append_middle cut

theorem isWord_append_right (cut : isSeparator c = true) :
    IsWord isSeparator (before ++ c :: after) (first + (before.length + 1))
        (last + (before.length + 1)) ↔
      IsWord isSeparator after first last := by
  have length : (before ++ c :: after).length = after.length + (before.length + 1) := by
    simp only [List.length_append, List.length_cons]
    omega
  have front : 0 < first →
      (CutAt isSeparator (before ++ c :: after) (first + (before.length + 1) - 1) ↔
        CutAt isSeparator after (first - 1)) := by
    intro positive
    rw [show first + (before.length + 1) - 1 = first - 1 + (before.length + 1) by omega]
    exact cutAt_append_right
  constructor
  · intro word
    have nonempty := word.nonempty
    have inside := word.inside
    refine ⟨by omega, by omega, ?_, ?_, ?_⟩
    · intro position within reached separated
      exact word.solid (position + (before.length + 1)) (by omega) (by omega)
        (cutAt_append_right.2 separated)
    · intro positive
      exact (front positive).1 (word.front (by omega))
    · intro more
      exact cutAt_append_right.1 (word.back (by omega))
  · intro word
    have nonempty := word.nonempty
    have inside := word.inside
    refine ⟨by omega, by omega, ?_, ?_, ?_⟩
    · intro position within reached separated
      have behind : before.length + 1 ≤ position := by omega
      obtain ⟨position, rfl⟩ := Nat.exists_eq_add_of_le' behind
      exact word.solid position (by omega) (by omega) (cutAt_append_right.1 separated)
    · intro _
      rcases Nat.eq_zero_or_pos first with rfl | positive
      · rw [Nat.zero_add, Nat.add_sub_cancel]
        exact cutAt_append_middle cut
      · exact (front positive).2 (word.front positive)
    · intro more
      exact cutAt_append_right.2 (word.back (by omega))

/-- No word reaches over a separator. -/
theorem IsWord.aside (cut : isSeparator c = true)
    (word : IsWord isSeparator (before ++ c :: after) first last) :
    last ≤ before.length ∨ before.length + 1 ≤ first := by
  by_contra across
  exact word.solid before.length (by omega) (by omega) (cutAt_append_middle cut)

def shiftSpan (count : Nat) (span : Nat × Nat) : Nat × Nat :=
  (span.1 + count, span.2 + count)

theorem shiftSpan_injective (count : Nat) : Function.Injective (shiftSpan count) := by
  intro first second same
  simp only [shiftSpan, Prod.mk.injEq, Nat.add_right_cancel_iff] at same
  exact Prod.ext same.1 same.2

theorem wordSpans_append (cut : isSeparator c = true) (before after : List Char) :
    wordSpans isSeparator (before ++ c :: after) = wordSpans isSeparator before ∪
      (wordSpans isSeparator after).image (shiftSpan (before.length + 1)) := by
  ext ⟨first, last⟩
  rw [Finset.mem_union, Finset.mem_image, mem_wordSpans, mem_wordSpans]
  constructor
  · intro word
    rcases word.aside cut with early | late
    · exact .inl ((isWord_append_left cut early).1 word)
    · have nonempty := word.nonempty
      obtain ⟨first, rfl⟩ := Nat.exists_eq_add_of_le' late
      obtain ⟨last, rfl⟩ := Nat.exists_eq_add_of_le' (Nat.le_trans late nonempty.le)
      exact .inr ⟨(first, last), mem_wordSpans.2 ((isWord_append_right cut).1 word), rfl⟩
  · rintro (word | ⟨span, found, same⟩)
    · exact (isWord_append_left cut word.inside).2 word
    · obtain ⟨rfl, rfl⟩ := Prod.mk.inj same
      exact (isWord_append_right cut).2 (mem_wordSpans.1 found)

theorem disjoint_wordSpans (before after : List Char) :
    Disjoint (wordSpans isSeparator before)
      ((wordSpans isSeparator after).image (shiftSpan (before.length + 1))) := by
  rw [Finset.disjoint_left]
  intro span early late
  obtain ⟨later, _, rfl⟩ := Finset.mem_image.1 late
  have word := mem_wordSpans.1 early
  have nonempty := word.nonempty
  have inside := word.inside
  simp only [shiftSpan] at nonempty inside
  omega

theorem spanText_append_left {span : Nat × Nat} (early : span.2 ≤ before.length) :
    spanText (before ++ after) span = spanText before span := by
  rw [spanText, List.drop_append, List.take_append_of_le_length, spanText]
  rw [List.length_drop]
  omega

theorem spanText_append_right (span : Nat × Nat) :
    spanText (before ++ c :: after) (shiftSpan (before.length + 1) span) = spanText after span := by
  have behind : (before ++ c :: after).drop (before.length + 1 + span.1) = after.drop span.1 := by
    rw [← List.drop_drop, List.drop_length_add_append, List.drop_succ_cons, List.drop_zero]
  rw [spanText, shiftSpan, Nat.add_sub_add_right, Nat.add_comm, behind, spanText]

end

/-! Counts of words. -/

/-- Whether a count on texts adds up over a separator. -/
def AddsUp (isSeparator : Char → Bool) (count : List Char → Nat) : Prop :=
  ∀ before c after, isSeparator c = true →
    count (before ++ c :: after) = count before + count after

def wordCount (isSeparator : Char → Bool) (accepts : List Char → Bool) (text : List Char) : Nat :=
  ((wordSpans isSeparator text).filter fun span => accepts (spanText text span) = true).card

variable {accepts : List Char → Bool}

theorem addsUp_wordCount : AddsUp isSeparator (wordCount isSeparator accepts) := by
  intro before c after cut
  have early : ∀ span ∈ wordSpans isSeparator before,
      (accepts (spanText (before ++ c :: after) span) = true ↔
        accepts (spanText before span) = true) := by
    intro span found
    rw [spanText_append_left (mem_wordSpans.1 found).inside]
  rw [wordCount, wordSpans_append cut, Finset.filter_union,
    Finset.card_union_of_disjoint (Finset.disjoint_filter_filter (disjoint_wordSpans before after)),
    Finset.filter_congr early, Finset.filter_image,
    Finset.card_image_of_injective _ (shiftSpan_injective _)]
  simp only [spanText_append_right, wordCount]

theorem addsUp_countP_tokens :
    AddsUp isSeparator fun text => (tokens isSeparator text).countP accepts := by
  intro before c after cut
  simp only [tokens_append_separator cut, List.countP_append]

/-- A count that adds up over a separator adds up over a run of them, if it finds nothing in the
empty text. -/
theorem AddsUp.gap {count : List Char → Nat} (adds : AddsUp isSeparator count)
    (nothing : count [] = 0) {gap : List Char} (nonempty : gap ≠ [])
    (all : ∀ c ∈ gap, isSeparator c = true) (before after : List Char) :
    count (before ++ gap ++ after) = count before + count after := by
  induction gap generalizing before with
  | nil => exact absurd rfl nonempty
  | cons c rest ih =>
    rw [List.forall_mem_cons] at all
    rw [List.append_assoc, List.cons_append, adds _ _ _ all.1]
    cases rest with
    | nil => rfl
    | cons d rest =>
      have later := ih (List.cons_ne_nil d rest) all.2 []
      rw [List.nil_append, nothing, Nat.zero_add] at later
      rw [later]

/-- Counts that add up over separators agree if they agree on the texts without one. -/
theorem AddsUp.eq {first second : List Char → Nat} (adds : AddsUp isSeparator first)
    (addsToo : AddsUp isSeparator second)
    (same : ∀ word, (∀ c ∈ word, isSeparator c = false) → first word = second word)
    (text : List Char) : first text = second text := by
  -- The characters since the last separator are kept apart until the next one comes.
  suffices joined : ∀ word, (∀ c ∈ word, isSeparator c = false) →
      first (word ++ text) = second (word ++ text) from joined [] (by simp)
  induction text with
  | nil =>
    intro word solid
    rw [List.append_nil, same word solid]
  | cons c rest ih =>
    intro word solid
    cases cut : isSeparator c with
    | true =>
      have others := ih [] (by simp)
      rw [List.nil_append] at others
      rw [adds _ _ _ cut, addsToo _ _ _ cut, same word solid, others]
    | false =>
      have longer : ∀ d ∈ word ++ [c], isSeparator d = false := by
        intro d found
        rcases List.mem_append.1 found with early | last
        · exact solid d early
        · rwa [List.mem_singleton.1 last]
      have moved := ih (word ++ [c]) longer
      rwa [List.append_assoc, List.singleton_append] at moved

/-! A text without a separator is one word, unless it is empty. -/

section

variable {word : List Char}

theorem not_cutAt (solid : ∀ c ∈ word, isSeparator c = false) (position : Nat) :
    ¬CutAt isSeparator word position := by
  intro separated
  obtain ⟨c, found, cut⟩ := Option.any_eq_true _ _ |>.1 separated
  cases (solid c (List.mem_of_getElem? found)).symm.trans cut

theorem wordSpans_solid (solid : ∀ c ∈ word, isSeparator c = false) (nonempty : word ≠ []) :
    wordSpans isSeparator word = {(0, word.length)} := by
  have positive := List.length_pos_iff.2 nonempty
  ext ⟨first, last⟩
  rw [mem_wordSpans, Finset.mem_singleton, Prod.mk.injEq]
  constructor
  · intro found
    have inside := found.inside
    constructor
    · by_contra later
      exact not_cutAt solid _ (found.front (Nat.pos_of_ne_zero later))
    · by_contra shorter
      exact not_cutAt solid _ (found.back (by omega))
  · rintro ⟨rfl, rfl⟩
    exact ⟨positive, Nat.le_refl _, fun position _ _ => not_cutAt solid position,
      fun impossible => absurd impossible (Nat.lt_irrefl 0),
      fun impossible => absurd impossible (Nat.lt_irrefl _)⟩

/-- The pieces of a text are its words. -/
theorem countP_tokens_eq_wordCount (isSeparator : Char → Bool) (accepts : List Char → Bool)
    (text : List Char) :
    (tokens isSeparator text).countP accepts = wordCount isSeparator accepts text := by
  apply addsUp_countP_tokens.eq addsUp_wordCount
  intro word solid
  by_cases empty : word = []
  · subst empty
    rfl
  · have whole : spanText word (0, word.length) = word := by simp [spanText]
    have single : tokens isSeparator word = [word] := by
      simp [tokens, segments_word solid, empty]
    rw [single, List.countP_singleton, wordCount, wordSpans_solid solid empty,
      Finset.filter_singleton, whole]
    split <;> rfl

end

end Text

namespace Detector

/-- The count of a keyword detector of either kind adds up over a separator, and over any run of
them; it is the number of longest stretches without a separator that are a keyword, where letter
case may be set aside in both. -/
theorem keyword_counts_add_up (probability : Float) (words : List (List Char)) :
    (∀ detector ∈ [keywords probability words, keywordsAnyCase probability words],
      (∀ before c after, isWordSeparator c = true →
        detector.scan (before ++ c :: after) = detector.scan before + detector.scan after) ∧
      ∀ before gap after, gap ≠ [] → (∀ c ∈ gap, isWordSeparator c = true) →
        detector.scan (before ++ gap ++ after) = detector.scan before + detector.scan after) ∧
    (∀ line, (keywords probability words).scan line =
      ((Text.wordSpans isWordSeparator line).filter fun span =>
        Text.spanText line span ∈ words).card) ∧
    ∀ line, (keywordsAnyCase probability words).scan line =
      ((Text.wordSpans isWordSeparator line).filter fun span =>
        Text.lower (Text.spanText line span) ∈ words.map Text.lower).card := by
  refine ⟨?_, ?_, ?_⟩
  · intro detector known
    have counts : ∃ accepts, detector.scan =
        fun line => (Text.tokens isWordSeparator line).countP accepts := by
      rcases List.mem_pair.1 known with rfl | rfl
      · exact ⟨_, rfl⟩
      · exact ⟨_, rfl⟩
    obtain ⟨accepts, scan⟩ := counts
    have adds : Text.AddsUp isWordSeparator detector.scan := scan ▸ Text.addsUp_countP_tokens
    have nothing : detector.scan [] = 0 := by rw [scan]; rfl
    exact ⟨adds, fun before gap after nonempty all => adds.gap nothing nonempty all before after⟩
  · intro line
    simp only [keywords, Text.countP_tokens_eq_wordCount, Text.wordCount, List.contains_iff_mem]
  · intro line
    simp only [keywordsAnyCase, Text.countP_tokens_eq_wordCount, Text.wordCount,
      List.contains_iff_mem]

def sampleKeywords : Detector :=
  keywordsAnyCase 0.3 ["ΟΔΟΣ".toList]

/-- The last sigma of a word has a form of its own. In the whole line the sigma before the point is
not the last one, since a point may stand inside of a word; a word of the line is lowered alone. -/
theorem keyword_counts_around_sigma :
    isWordSeparator '.' = true ∧ isWordSeparator '\u3000' = true ∧
    sampleKeywords.scan "οδος".toList = 1 ∧
    sampleKeywords.scan ("ΟΔΟΣ".toList ++ '.' :: "Α".toList) =
      sampleKeywords.scan "ΟΔΟΣ".toList + sampleKeywords.scan "Α".toList ∧
    sampleKeywords.scan ("Οδος".toList ++ ['.', '\u3000'] ++ "ΟΔΟΣ".toList) =
      sampleKeywords.scan "Οδος".toList + sampleKeywords.scan "ΟΔΟΣ".toList ∧
    sampleKeywords.scan "ΟΔΟΣ".toList + sampleKeywords.scan "Α".toList = 1 := by
  have point : isWordSeparator '.' = true := by decide
  have wide : isWordSeparator '\u3000' = true := by decide
  have known : sampleKeywords ∈
      [keywords 0.3 ["ΟΔΟΣ".toList], keywordsAnyCase 0.3 ["ΟΔΟΣ".toList]] :=
    List.mem_cons_of_mem _ List.mem_cons_self
  obtain ⟨one, run⟩ := (keyword_counts_add_up 0.3 ["ΟΔΟΣ".toList]).1 sampleKeywords known
  refine ⟨point, wide, by decide +kernel, one _ _ _ point, run _ _ _ (by simp) ?_,
    by decide +kernel⟩
  simp only [List.forall_mem_cons, point, wide, List.not_mem_nil, false_implies, implies_true,
    and_self]

end Detector

end CodeMetrics
