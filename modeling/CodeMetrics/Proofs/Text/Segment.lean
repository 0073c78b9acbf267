import CodeMetrics.Text.Basic
import Mathlib.Data.List.DropRight

/-!
What becomes of the pieces of a text, of its physical lines and of the occurrences in it when two
texts are joined. Only what touches the seam can change: the last piece of the first text and the
first piece of the second become one, and an occurrence may begin in one and end in the other.
-/

namespace CodeMetrics.Text

section

variable {α : Type} {isSeparator : α → Bool}

theorem segments_ne_nil (isSeparator : α → Bool) (text : List α) :
    segments isSeparator text ≠ [] := by
  cases text with
  | nil => simp [segments]
  | cons c rest =>
    rw [segments]
    split
    · simp
    · split <;> simp

/-- A separator keeps the pieces before it apart from those after it. -/
theorem segments_append_separator {c : α} (cut : isSeparator c = true) (before after : List α) :
    segments isSeparator (before ++ c :: after) =
      segments isSeparator before ++ segments isSeparator after := by
  induction before with
  | nil => simp [segments, cut]
  | cons d rest ih =>
    rw [List.cons_append, segments, segments, ih]
    cases pieces : segments isSeparator rest with
    | nil => exact absurd pieces (segments_ne_nil isSeparator rest)
    | cons piece others => split <;> simp

theorem segments_word {word : List α} (whole : ∀ c ∈ word, isSeparator c = false) :
    segments isSeparator word = [word] := by
  induction word with
  | nil => rfl
  | cons c rest ih =>
    rw [List.forall_mem_cons] at whole
    simp [segments, whole.1, ih whole.2]

theorem segments_separators {text : List α} (all : ∀ c ∈ text, isSeparator c = true) :
    ∀ piece ∈ segments isSeparator text, piece = [] := by
  induction text with
  | nil => simp [segments]
  | cons c rest ih =>
    rw [List.forall_mem_cons] at all
    rw [segments, if_pos all.1]
    exact List.forall_mem_cons.2 ⟨rfl, ih all.2⟩

/-- The pieces of a text but its last one do not depend on what follows. -/
theorem exists_segments_before (isSeparator : α → Bool) (before : List α) :
    ∃ pieces, ∀ after, segments isSeparator (before ++ after) =
      pieces ++ segments isSeparator (before.rtakeWhile (fun c => !isSeparator c) ++ after) := by
  have split : before.rdropWhile (fun c => !isSeparator c) ++
      before.rtakeWhile (fun c => !isSeparator c) = before := List.rdropWhile_append_rtakeWhile
  rcases List.eq_nil_or_concat' (before.rdropWhile fun c => !isSeparator c) with
    wordy | ⟨rest, c, last⟩
  · refine ⟨[], fun after => ?_⟩
    rw [wordy, List.nil_append] at split
    rw [split, List.nil_append]
  · have cut : isSeparator c = true := by
      have stops := List.rdropWhile_last_not (fun c => !isSeparator c) before (by simp [last])
      simpa [last] using stops
    refine ⟨segments isSeparator rest, fun after => ?_⟩
    conv_lhs => rw [← split, last]
    rw [← segments_append_separator cut]
    simp

/-- The pieces of a text but its first one do not depend on what stands before. -/
theorem exists_segments_after (isSeparator : α → Bool) (after : List α) :
    ∃ pieces, ∀ word : List α, (∀ c ∈ word, isSeparator c = false) →
      segments isSeparator (word ++ after) =
        (word ++ after.takeWhile (fun c => !isSeparator c)) :: pieces := by
  have split : after.takeWhile (fun c => !isSeparator c) ++
      after.dropWhile (fun c => !isSeparator c) = after := List.takeWhile_append_dropWhile
  have whole : ∀ word : List α, (∀ c ∈ word, isSeparator c = false) →
      ∀ c ∈ word ++ after.takeWhile (fun c => !isSeparator c), isSeparator c = false := by
    intro word plain c found
    rcases List.mem_append.1 found with early | late
    · exact plain c early
    · simpa using List.mem_takeWhile_imp late
  cases rest : after.dropWhile fun c => !isSeparator c with
  | nil =>
    refine ⟨[], fun word plain => ?_⟩
    rw [rest, List.append_nil] at split
    rw [← segments_word (whole word plain), split]
  | cons c others =>
    have cut : isSeparator c = true := by
      have stops := List.head?_dropWhile_not (fun c => !isSeparator c) after
      simpa [rest] using stops
    refine ⟨segments isSeparator others, fun word plain => ?_⟩
    conv_lhs => rw [← split, rest, ← List.append_assoc]
    rw [segments_append_separator cut, segments_word (whole word plain), List.singleton_append]

/-- Joining two texts joins the last piece of the first one to the first piece of the second one,
and leaves all others as they are. -/
theorem exists_segments_append (isSeparator : α → Bool) (before after : List α) :
    ∃ early late,
      segments isSeparator before = early ++ [before.rtakeWhile fun c => !isSeparator c] ∧
      segments isSeparator after = (after.takeWhile fun c => !isSeparator c) :: late ∧
      segments isSeparator (before ++ after) = early ++
        (before.rtakeWhile (fun c => !isSeparator c) ++
          after.takeWhile (fun c => !isSeparator c)) :: late := by
  obtain ⟨early, first⟩ := exists_segments_before isSeparator before
  obtain ⟨late, second⟩ := exists_segments_after isSeparator after
  have plain : ∀ c ∈ before.rtakeWhile (fun c => !isSeparator c), isSeparator c = false := by
    intro c found
    simpa using List.mem_rtakeWhile_imp found
  refine ⟨early, late, ?_, ?_, ?_⟩
  · have alone := first []
    rwa [List.append_nil, List.append_nil, segments_word plain] at alone
  · exact second [] (by simp)
  · rw [first, second _ plain]

end

/-! Words. -/

section

variable {isSeparator : Char → Bool}

theorem tokens_append_separator {c : Char} (cut : isSeparator c = true) (before after : List Char) :
    tokens isSeparator (before ++ c :: after) =
      tokens isSeparator before ++ tokens isSeparator after := by
  rw [tokens, segments_append_separator cut, List.filter_append, tokens, tokens]

theorem tokens_separators {text : List Char} (all : ∀ c ∈ text, isSeparator c = true) :
    tokens isSeparator text = [] := by
  rw [tokens, List.filter_eq_nil_iff]
  intro piece found
  simp [segments_separators all piece found]

/-- Separators at the front of a text add no words. -/
theorem tokens_separators_append {before : List Char} (all : ∀ c ∈ before, isSeparator c = true)
    (text : List Char) : tokens isSeparator (before ++ text) = tokens isSeparator text := by
  induction before with
  | nil => rfl
  | cons c before ih =>
    rw [List.forall_mem_cons] at all
    exact (tokens_append_separator all.1 [] (before ++ text)).trans (ih all.2)

/-- Separators at the end of a text add no words. -/
theorem tokens_append_separators (text : List Char) {after : List Char}
    (all : ∀ c ∈ after, isSeparator c = true) :
    tokens isSeparator (text ++ after) = tokens isSeparator text := by
  cases after with
  | nil => rw [List.append_nil]
  | cons c after =>
    rw [List.forall_mem_cons] at all
    rw [tokens_append_separator all.1, tokens_separators all.2, List.append_nil]

end

/-! Physical lines. -/

/-- Whether a text is empty or ends with a line feed, so that whatever follows begins a line. -/
def EndsLine (text : List Char) : Prop :=
  text = [] ∨ text.getLast? = some '\n'

theorem lines_append_feed (before after : List Char) :
    lines (before ++ '\n' :: after) =
      (segments (· == '\n') before).map dropReturn ++ lines after := by
  have kept := segments_ne_nil (· == '\n') after
  have apart : segments (· == '\n') (before ++ '\n' :: after) =
      segments (· == '\n') before ++ segments (· == '\n') after :=
    segments_append_separator rfl before after
  simp only [lines, apart, List.dropLast_append_of_ne_nil kept,
    List.getLast?_append_of_ne_nil _ kept, List.map_append]
  split <;> simp

theorem lines_single {text : List Char} (nonempty : text ≠ []) (unbroken : '\n' ∉ text) :
    lines text = [text] := by
  have whole : segments (· == '\n') text = [text] := by
    apply segments_word
    intro c found
    rw [beq_eq_false_iff_ne]
    rintro rfl
    exact unbroken found
  simp only [lines, whole, List.dropLast_singleton, List.map_nil, List.getLast?_singleton,
    List.nil_append]

theorem lines_append {before : List Char} (ended : EndsLine before) (after : List Char) :
    lines (before ++ after) = lines before ++ lines after := by
  rcases ended with rfl | feed
  · rfl
  · obtain ⟨rest, rfl⟩ := List.getLast?_eq_some_iff.1 feed
    rw [List.append_assoc, List.singleton_append, lines_append_feed, lines_append_feed]
    simp [lines, segments]

/-! Occurrences. -/

/-- Whether a needle can be laid over the seam of two texts: a part of it ends the first text and
the rest begins the second one. -/
def Bridges (needle before after : List Char) : Prop :=
  ∃ early late, needle = early ++ late ∧ early ≠ [] ∧ late ≠ [] ∧ early <:+ before ∧ late <+: after

theorem Bridges.cons {needle before after : List Char} (bridges : Bridges needle before after)
    (c : Char) : Bridges needle (c :: before) after := by
  obtain ⟨early, late, whole, starts, ends, before, after⟩ := bridges
  exact ⟨early, late, whole, starts, ends, before.trans (List.suffix_cons c _), after⟩

/-- What stands behind the seam does not matter where the needle is looked for before it. -/
theorem isPrefixOf_append_of_not_bridges {needle before after : List Char}
    (apart : ¬Bridges needle before after) (nonempty : before ≠ []) :
    needle.isPrefixOf (before ++ after) = needle.isPrefixOf before := by
  rw [Bool.eq_iff_iff, List.isPrefixOf_iff_prefix, List.isPrefixOf_iff_prefix]
  refine ⟨fun found => ?_, fun found => found.trans (List.prefix_append before after)⟩
  obtain ⟨rest, joined⟩ := found
  obtain ⟨late, rfl, _⟩ | ⟨late, rfl, rfl⟩ := List.append_eq_append_iff.1 joined
  · exact List.prefix_append needle late
  · by_cases nothing : late = []
    · simp [nothing]
    · refine absurd ?_ apart
      exact ⟨before, late, rfl, nonempty, nothing, List.suffix_rfl, List.prefix_append late rest⟩

theorem occurrencesAfter_append {needle before after : List Char}
    (apart : ¬Bridges needle before after) (skip : Nat) (fits : skip ≤ before.length) :
    occurrencesAfter needle skip (before ++ after) =
      occurrencesAfter needle skip before + occurrences needle after := by
  induction before generalizing skip with
  | nil =>
    obtain rfl : skip = 0 := Nat.le_zero.1 fits
    simp [occurrences, occurrencesAfter]
  | cons c rest ih =>
    have later : ¬Bridges needle rest after := fun bridges => apart (bridges.cons c)
    cases skip with
    | succ skip =>
      rw [List.cons_append, occurrencesAfter, occurrencesAfter,
        ih later skip (Nat.le_of_succ_le_succ fits)]
    | zero =>
      have same := isPrefixOf_append_of_not_bridges apart (List.cons_ne_nil c rest)
      rw [List.cons_append] at same
      rw [List.cons_append, occurrencesAfter, occurrencesAfter, same]
      by_cases found : needle.isPrefixOf (c :: rest) = true
      · have room : needle.length ≤ rest.length + 1 :=
          (List.isPrefixOf_iff_prefix.1 found).length_le
        rw [if_pos found, if_pos found, ih later _ (by omega)]
        omega
      · rw [if_neg found, if_neg found, ih later 0 (Nat.zero_le _)]

/-- Where a needle cannot be laid over the seam, its occurrences in two texts add up. -/
theorem occurrences_append {needle before after : List Char}
    (apart : ¬Bridges needle before after) :
    occurrences needle (before ++ after) = occurrences needle before + occurrences needle after :=
  occurrencesAfter_append apart 0 (Nat.zero_le _)

/-- A character that the needle lacks keeps the occurrences before it apart from those after it. -/
theorem occurrences_append_foreign {needle : List Char} {c : Char} (nonempty : needle ≠ [])
    (foreign : c ∉ needle) (before after : List Char) :
    occurrences needle (before ++ c :: after) =
      occurrences needle before + occurrences needle after := by
  have first : ¬Bridges needle before (c :: after) := by
    rintro ⟨early, late, rfl, _, ends, _, starts⟩
    obtain ⟨d, rest, rfl⟩ := List.exists_cons_of_ne_nil ends
    obtain rfl : d = c := (List.cons_prefix_cons.1 starts).1
    simp at foreign
  have second : ¬Bridges needle [c] after := by
    rintro ⟨early, late, rfl, starts, _, closes, _⟩
    obtain rfl : early = [c] := by
      rcases List.suffix_cons_iff.1 closes with whole | shorter
      · exact whole
      · exact absurd (List.suffix_nil.1 shorter) starts
    simp at foreign
  have alone : occurrences needle [c] = 0 := by
    obtain ⟨d, rest, rfl⟩ := List.exists_cons_of_ne_nil nonempty
    have differs : (d == c) = false := by
      rw [beq_eq_false_iff_ne]
      rintro rfl
      simp at foreign
    simp [occurrences, occurrencesAfter, List.isPrefixOf, differs]
  rw [occurrences_append first, ← List.singleton_append, occurrences_append second, alone,
    Nat.zero_add]

theorem occurrences_eq_zero {needle text : List Char} {c : Char} (begins : needle.head? = some c)
    (absent : c ∉ text) : occurrences needle text = 0 := by
  obtain ⟨others, rfl⟩ := List.head?_eq_some_iff.1 begins
  rw [occurrences]
  induction text with
  | nil => rfl
  | cons d rest ih =>
    rw [List.mem_cons, not_or] at absent
    have differs : (c == d) = false := beq_eq_false_iff_ne.2 absent.1
    simp [occurrencesAfter, List.isPrefixOf, differs, ih absent.2]

theorem occurrences_single_append (c : Char) (before after : List Char) :
    occurrences [c] (before ++ after) = occurrences [c] before + occurrences [c] after := by
  apply occurrences_append
  rintro ⟨early, late, whole, starts, ends, _⟩
  rcases List.append_eq_singleton_iff.1 whole.symm with ⟨rfl, _⟩ | ⟨_, rfl⟩
  · exact starts rfl
  · exact ends rfl

theorem occurrences_pair_replicate (c : Char) :
    ∀ count, occurrences [c, c] (List.replicate count c) = count / 2
  | 0 => rfl
  | 1 => by simp [occurrences, occurrencesAfter, List.isPrefixOf]
  | count + 2 => by
    have fewer := occurrences_pair_replicate c count
    rw [occurrences] at fewer
    simp only [occurrences, List.replicate_succ, occurrencesAfter, List.isPrefixOf,
      beq_self_eq_true, Bool.and_self, if_true, List.length_cons, List.length_nil]
    rw [fewer]
    omega

theorem Bridges.pair {c : Char} {before after : List Char} (bridges : Bridges [c, c] before after) :
    before.getLast? = some c ∧ after.head? = some c := by
  obtain ⟨early, late, whole, starts, ends, closes, opens⟩ := bridges
  obtain ⟨d, rest, rfl⟩ := List.exists_cons_of_ne_nil starts
  obtain ⟨rfl, tail⟩ := List.cons_eq_cons.1 whole
  obtain ⟨rfl, rfl⟩ : rest = [] ∧ late = [c] := by
    rcases List.append_eq_singleton_iff.1 tail.symm with single | ⟨_, nothing⟩
    · exact single
    · exact absurd nothing ends
  obtain ⟨front, rfl⟩ := closes
  obtain ⟨back, rfl⟩ := opens
  simp

/-- Joining two texts makes one more pair of a character where the run of it that ends the first
text and the run that begins the second one are both odd, and never one less. -/
theorem occurrences_pair_append (c : Char) (before after : List Char) :
    occurrences [c, c] (before ++ after) = occurrences [c, c] before + occurrences [c, c] after +
      if (before.rtakeWhile (· == c)).length % 2 = 1 ∧ (after.takeWhile (· == c)).length % 2 = 1
      then 1 else 0 := by
  have ending : before.rtakeWhile (· == c) =
      List.replicate (before.rtakeWhile (· == c)).length c :=
    List.eq_replicate_of_mem fun d found => by simpa using List.mem_rtakeWhile_imp found
  have beginning : after.takeWhile (· == c) =
      List.replicate (after.takeWhile (· == c)).length c :=
    List.eq_replicate_of_mem fun d found => by simpa using List.mem_takeWhile_imp found
  have front : (before.rdropWhile (· == c)).getLast? ≠ some c := by
    intro last
    obtain ⟨rest, whole⟩ := List.getLast?_eq_some_iff.1 last
    have stops := List.rdropWhile_last_not (· == c) before (by simp [whole])
    simp [whole] at stops
  have back : (after.dropWhile (· == c)).head? ≠ some c := by
    intro first
    have stops := List.head?_dropWhile_not (· == c) after
    simp [first] at stops
  -- Each text falls into its run at the seam and the rest, which no pair can leave.
  have first : before = before.rdropWhile (· == c) ++ before.rtakeWhile (· == c) :=
    List.rdropWhile_append_rtakeWhile.symm
  have second : after = after.takeWhile (· == c) ++ after.dropWhile (· == c) :=
    List.takeWhile_append_dropWhile.symm
  generalize before.rdropWhile (· == c) = early at *
  generalize after.dropWhile (· == c) = late at *
  generalize (before.rtakeWhile (· == c)).length = left at *
  generalize (after.takeWhile (· == c)).length = right at *
  rw [ending] at first
  rw [beginning] at second
  have apart : ∀ count rest, occurrences [c, c] (early ++ (List.replicate count c ++ rest)) =
      occurrences [c, c] early + occurrences [c, c] (List.replicate count c ++ rest) :=
    fun count rest => occurrences_append fun bridges => front bridges.pair.1
  have run : ∀ count, occurrences [c, c] (List.replicate count c ++ late) =
      count / 2 + occurrences [c, c] late := by
    intro count
    rw [occurrences_append fun bridges => back bridges.pair.2, occurrences_pair_replicate]
  have joined : before ++ after = early ++ (List.replicate (left + right) c ++ late) := by
    rw [first, second, List.replicate_add]
    simp only [List.append_assoc]
  have alone : occurrences [c, c] before = occurrences [c, c] early + left / 2 := by
    have single := apart left []
    rwa [List.append_nil, ← first, occurrences_pair_replicate] at single
  rw [joined, apart, run, alone, second, run]
  split <;> omega

end CodeMetrics.Text
