import CodeMetrics.Command.Run
import CodeMetrics.Proofs.Pattern.Matching
import CodeMetrics.Proofs.Text.Blank
import CodeMetrics.Proofs.Text.Segment

/-!
Margins of white space and the recognition of code. Each kind of detector treats white space in its
own way: one trims it, one takes it for a separator, one drops it everywhere, one reads it like any
other character, and the patterns of Python allow for it at the start of a line. None of them sees a
margin, so neither does a recognizer of either footprint.
-/

namespace CodeMetrics

open Text (AllBlank)

/-- The matches on a line do not depend on white space at its two ends. -/
def Detector.IgnoresMargins (detector : Detector) : Prop :=
  ∀ before line after, AllBlank before → AllBlank after →
    detector.scan (before ++ line ++ after) = detector.scan line

theorem Detector.ignoresMargins_of {detector : Detector}
    (front : ∀ before line, AllBlank before → detector.scan (before ++ line) = detector.scan line)
    (back : ∀ line after, AllBlank after → detector.scan (line ++ after) = detector.scan line) :
    detector.IgnoresMargins := by
  intro before line after blankBefore blankAfter
  rw [back _ _ blankAfter, front _ _ blankBefore]

/-! White space belongs to none of the classes of characters. -/

theorem isLowercase_of_isBlank {c : Char} (blank : Text.isBlank c = true) :
    Text.isLowercase c = false :=
  of_isBlank (motive := fun c => Text.isLowercase c = false) (by decide +kernel) blank

theorem isUppercase_of_isBlank {c : Char} (blank : Text.isBlank c = true) :
    Text.isUppercase c = false :=
  of_isBlank (motive := fun c => Text.isUppercase c = false) (by decide +kernel) blank

theorem isWordChar_of_isBlank {c : Char} (blank : Text.isBlank c = true) :
    Text.isWordChar c = false :=
  of_isBlank (motive := fun c => Text.isWordChar c = false) (by decide +kernel) blank

namespace Detector

theorem ignoresMargins_endsWith (probability : Float) (endings : List Char) :
    (endsWith probability endings).IgnoresMargins := by
  apply ignoresMargins_of
  · intro before line blank
    simp only [endsWith, Text.getLast?_trimEnd_append blank]
  · intro line after blank
    simp only [endsWith, Text.trimEnd_append line blank]

theorem ignoresMargins_keywords (probability : Float) (words : List (List Char)) :
    (keywords probability words).IgnoresMargins := by
  have separates : ∀ {text}, AllBlank text → ∀ c ∈ text, isWordSeparator c = true := by
    intro text blank c found
    rw [isWordSeparator, blank c found, Bool.true_or]
  apply ignoresMargins_of
  · intro before line blank
    simp only [keywords, Text.tokens_separators_append (separates blank)]
  · intro line after blank
    simp only [keywords, Text.tokens_append_separators line (separates blank)]

theorem ignoresMargins_contains (probability : Float) (fragments : List (List Char)) :
    (contains probability fragments).IgnoresMargins := by
  have dropped : ∀ {text}, AllBlank text → Text.squeeze text = [] := by
    intro text blank
    rw [Text.squeeze, List.filter_eq_nil_iff]
    intro c found
    simp [blank c found]
  have apart : ∀ first second, Text.squeeze (first ++ second) =
      Text.squeeze first ++ Text.squeeze second := fun _ _ => List.filter_append ..
  intro before line after blankBefore blankAfter
  simp only [contains, apart, dropped blankBefore, dropped blankAfter, List.nil_append,
    List.append_nil]

/-! A hump needs two letters side by side, and white space is neither of them. -/

theorem hasCamelHump_blank_append {before : List Char} (blank : AllBlank before)
    (line : List Char) : hasCamelHump (before ++ line) = hasCamelHump line := by
  induction before with
  | nil => rfl
  | cons c before ih =>
    have ih := ih fun d found => blank d (List.mem_cons_of_mem c found)
    have low := isLowercase_of_isBlank (blank c List.mem_cons_self)
    rw [← ih, List.cons_append]
    cases before ++ line with
    | nil => rfl
    | cons d rest => rw [hasCamelHump, low, Bool.false_and, Bool.false_or]

theorem hasCamelHump_append_blank (line : List Char) {after : List Char} (blank : AllBlank after) :
    hasCamelHump (line ++ after) = hasCamelHump line := by
  match line with
  | [] => simpa using hasCamelHump_blank_append blank []
  | [c] =>
    cases after with
    | nil => rfl
    | cons d after =>
      have high := isUppercase_of_isBlank (blank d List.mem_cons_self)
      have rest := hasCamelHump_blank_append blank []
      rw [List.append_nil] at rest
      rw [List.cons_append, List.nil_append, hasCamelHump, high, Bool.and_false, Bool.false_or,
        rest]
      rfl
  | c :: d :: rest =>
    have ih := hasCamelHump_append_blank (d :: rest) blank
    rw [List.cons_append] at ih
    rw [List.cons_append, List.cons_append, hasCamelHump, ih, hasCamelHump]

theorem ignoresMargins_camelCase (probability : Float) :
    (camelCase probability).IgnoresMargins := by
  apply ignoresMargins_of
  · intro before line blank
    simp only [camelCase, hasCamelHump_blank_append blank]
  · intro line after blank
    simp only [camelCase, hasCamelHump_append_blank line blank]

end Detector

namespace Footprint

/-- A line of indentation, one of two words, a gap and an item, followed by anything. -/
def Opens (first second : String) (item : Char → Bool) (line : List Char) : Prop :=
  ∃ indent word gap c rest, line = indent ++ (word ++ (gap ++ c :: rest)) ∧ AllBlank indent ∧
    (word = first.toList ∨ word = second.toList) ∧ AllBlank gap ∧ gap ≠ [] ∧ item c = true

def indented (first second : String) (item : Char → Bool) : Pattern :=
  .sequence [.many Text.isBlank, .either (.literal first.toList) (.literal second.toList),
    .some1 Text.isBlank, .some1 item]

theorem opening_eq (first second : String) (item : Char → Bool) :
    opening first second item = .chain .start (indented first second item) := rfl

variable {first second : String} {item : Char → Bool}

theorem isSome_indented (line : List Char) :
    ((indented first second item).matchAt? ⟨none, line⟩).isSome ↔ Opens first second item line := by
  have reads :=
    (Pattern.reads_times_one Text.isBlank 0 true).chain
      (((Pattern.reads_literal first.toList).either (Pattern.reads_literal second.toList)).chain
        ((Pattern.reads_times_one Text.isBlank 1 true).chain (Pattern.reads_times_one item 1 true)))
  rw [Pattern.isSome_matchAt?]
  constructor
  · rintro ⟨last, found⟩
    obtain ⟨_, ⟨indent, _, rfl, ⟨_, blankIndent⟩, word, _, rfl, chosen, gap, items, rfl,
      ⟨nonempty, blank⟩, some, accepted⟩, read⟩ :=
        (reads ⟨none, line⟩ last.rest).1 ⟨last, found, rfl⟩
    obtain ⟨c, others, rfl⟩ := List.exists_cons_of_length_pos some
    refine ⟨indent, word, gap, c, others ++ last.rest, ?_, blankIndent, chosen, blank,
      List.length_pos_iff.1 nonempty, accepted c List.mem_cons_self⟩
    simpa using read
  · rintro ⟨indent, word, gap, c, rest, rfl, blankIndent, chosen, blank, nonempty, accepted⟩
    obtain ⟨last, found, _⟩ := (reads ⟨none, indent ++ (word ++ (gap ++ c :: rest))⟩ rest).2
      ⟨indent ++ (word ++ (gap ++ [c])),
        ⟨indent, _, rfl, ⟨Nat.zero_le _, blankIndent⟩, word, _, rfl, chosen, gap, [c], rfl,
          ⟨List.length_pos_iff.2 nonempty, blank⟩, Nat.le_refl 1, by simpa using accepted⟩,
        by simp⟩
    exact ⟨last, found⟩

theorem count_opening (line : List Char) [Decidable (Opens first second item line)] :
    (opening first second item).count line = if Opens first second item line then 1 else 0 := by
  rw [opening_eq, Pattern.count_start]
  exact if_congr (isSome_indented line) rfl rfl

def BeginsSolid (word : List Char) : Prop :=
  ∃ c others, word = c :: others ∧ Text.isBlank c = false

/-- Indentation takes in white space in front of a line. -/
theorem opens_blank_append (solidFirst : BeginsSolid first.toList)
    (solidSecond : BeginsSolid second.toList) {before : List Char} (blank : AllBlank before)
    (line : List Char) :
    Opens first second item (before ++ line) ↔ Opens first second item line := by
  constructor
  · rintro ⟨indent, word, gap, c, rest, whole, indented, chosen, others⟩
    obtain ⟨d, letters, rfl, solid⟩ : BeginsSolid word := by
      rcases chosen with rfl | rfl
      · exact solidFirst
      · exact solidSecond
    -- Both sides are trimmed down to where the word begins.
    have trimmed := congrArg Text.trimStart whole
    rw [Text.trimStart_append blank, Text.trimStart_append indented, Text.trimStart.eq_def (_ ++ _),
      List.cons_append, List.dropWhile_cons_of_neg (by simp [solid])] at trimmed
    obtain ⟨margin, blankMargin, split⟩ := Text.exists_trimStart line
    rw [trimmed] at split
    exact ⟨margin, d :: letters, gap, c, rest, split, blankMargin, chosen, others⟩
  · rintro ⟨indent, word, gap, c, rest, rfl, indented, others⟩
    refine ⟨before ++ indent, word, gap, c, rest, by simp, ?_, others⟩
    exact fun d found => (List.mem_append.1 found).elim (blank d) (indented d)

theorem opens_append_blank (solid : ∀ c, item c = true → Text.isBlank c = false)
    (line : List Char) {after : List Char} (blank : AllBlank after) :
    Opens first second item (line ++ after) ↔ Opens first second item line := by
  constructor
  · rintro ⟨indent, word, gap, c, rest, whole, indented, chosen, blankGap, nonempty, accepted⟩
    -- The item is no white space, so it stands before the margin.
    have outside : c ∉ after := by
      intro found
      cases (solid c accepted).symm.trans (blank c found)
    have split : line ++ after = (indent ++ (word ++ gap)) ++ c :: rest := by simpa using whole
    rcases List.append_eq_append_iff.1 split with ⟨extra, _, found⟩ | ⟨extra, found, tail⟩
    · exact absurd (found ▸ by simp) outside
    · cases extra with
      | nil =>
        rw [List.nil_append] at tail
        exact absurd (tail ▸ List.mem_cons_self) outside
      | cons d extra =>
        rw [List.cons_append, List.cons.injEq] at tail
        refine ⟨indent, word, gap, c, extra, ?_, indented, chosen, blankGap, nonempty, accepted⟩
        rw [found, tail.1]
        simp
  · rintro ⟨indent, word, gap, c, rest, rfl, others⟩
    exact ⟨indent, word, gap, c, rest ++ after, by simp, others⟩

theorem ignoresMargins_opening (probability : Float) (solidFirst : BeginsSolid first.toList)
    (solidSecond : BeginsSolid second.toList)
    (solid : ∀ c, item c = true → Text.isBlank c = false) :
    (Detector.pattern probability (opening first second item)).IgnoresMargins := by
  classical
  apply Detector.ignoresMargins_of
  · intro before line blank
    simp only [Detector.pattern, count_opening, opens_blank_append solidFirst solidSecond blank]
  · intro line after blank
    simp only [Detector.pattern, count_opening, opens_append_blank solid line blank]

/-! Both footprints. -/

theorem cFamily_ignoresMargins : ∀ detector ∈ cFamily, detector.IgnoresMargins := by
  simp only [cFamily, List.forall_mem_cons, List.not_mem_nil, false_implies, implies_true, and_true]
  exact ⟨Detector.ignoresMargins_endsWith _ _, Detector.ignoresMargins_keywords _ _,
    Detector.ignoresMargins_keywords _ _, Detector.ignoresMargins_contains _ _,
    Detector.ignoresMargins_camelCase _⟩

theorem python_ignoresMargins : ∀ detector ∈ python, detector.IgnoresMargins := by
  have letter : ∀ c, Text.isWordChar c = true → Text.isBlank c = false := by
    intro c accepted
    by_contra blank
    cases accepted.symm.trans (isWordChar_of_isBlank (eq_true_of_ne_false blank))
  have letterOrPoint : ∀ c, (Text.isWordChar c || c == '.') = true → Text.isBlank c = false := by
    intro c accepted
    rcases Bool.or_eq_true_iff.1 accepted with accepted | point
    · exact letter c accepted
    · rw [eq_of_beq point]
      decide
  simp only [python, List.forall_mem_cons, List.not_mem_nil, false_implies, implies_true, and_true]
  refine ⟨Detector.ignoresMargins_endsWith _ _, Detector.ignoresMargins_keywords _ _,
    Detector.ignoresMargins_contains _ _, ?_, ?_⟩
  · exact ignoresMargins_opening 0.95 ⟨'d', _, rfl, by decide⟩ ⟨'c', _, rfl, by decide⟩ letter
  · exact ignoresMargins_opening 0.7 ⟨'i', _, rfl, by decide⟩ ⟨'f', _, rfl, by decide⟩ letterOrPoint

end Footprint

namespace Recognizer

/-- Lines with the same counts are recognized alike. -/
theorem recognition_congr (recognizer : Recognizer) {first second : List Char}
    (same : ∀ detector ∈ recognizer.footprint, detector.scan first = detector.scan second) :
    recognizer.recognition first = recognizer.recognition second := by
  rw [recognition, recognition]
  apply List.foldl_ext
  intro probability detector found
  rw [Detector.recognition, Detector.recognition, same detector found]

variable {recognizer : Recognizer}

theorem scan_margins (known : recognizer.footprint ∈ [Footprint.cFamily, Footprint.python])
    {before after : List Char} (blankBefore : AllBlank before) (blankAfter : AllBlank after)
    (line : List Char) (detector : Detector) (found : detector ∈ recognizer.footprint) :
    detector.scan (before ++ line ++ after) = detector.scan line := by
  have ignores : detector.IgnoresMargins := by
    rcases List.mem_pair.1 known with footprint | footprint
    · exact Footprint.cFamily_ignoresMargins detector (footprint ▸ found)
    · exact Footprint.python_ignoresMargins detector (footprint ▸ found)
  exact ignores before line after blankBefore blankAfter

theorem recognition_trim (known : recognizer.footprint ∈ [Footprint.cFamily, Footprint.python])
    (line : List Char) : recognizer.recognition (Text.trim line) = recognizer.recognition line := by
  obtain ⟨before, after, blankBefore, blankAfter, split⟩ := Text.exists_margins line
  have same := recognizer.recognition_congr
    (scan_margins known blankBefore blankAfter (Text.trim line))
  rw [← split] at same
  exact same.symm

/-- White space at the two ends of a line changes neither the count of any detector nor the verdict.
So the classifier of comments, which judges a trimmed body, and the printed classification of a
whole line agree wherever the body is the trimmed line. -/
theorem verdict_ignores_margins
    (known : recognizer.footprint ∈ [Footprint.cFamily, Footprint.python])
    {before after : List Char} (blankBefore : AllBlank before) (blankAfter : AllBlank after)
    (line : List Char) :
    (∀ detector ∈ recognizer.footprint,
      detector.scan (before ++ line ++ after) = detector.scan line) ∧
    recognizer.recognition (before ++ line ++ after) = recognizer.recognition line ∧
    recognizer.isCode (before ++ line ++ after) = recognizer.isCode line ∧
    ∀ regions comment, commentBody regions comment = Text.trim line → Text.trim line ≠ [] →
      classifyComment regions recognizer comment =
        (if recognizer.isCode line then .code else .text) ∧
      ∀ number, Command.classifiedLine recognizer number (before ++ line ++ after) =
        ScanReport.padLeft 5 (toString number) ++ " " ++
          Decimal.fixed 3 (recognizer.recognition (commentBody regions comment)) ++ " " ++
          (if classifyComment regions recognizer comment = .code then "code " else "prose") ++
          " " ++ String.ofList (before ++ line ++ after) := by
  have scans := scan_margins known blankBefore blankAfter line
  have recognized := recognizer.recognition_congr scans
  have verdict : recognizer.isCode (before ++ line ++ after) = recognizer.isCode line := by
    rw [isCode, recognized, isCode]
  refine ⟨scans, recognized, verdict, ?_⟩
  intro regions comment body nonempty
  have trimmed := recognition_trim known line
  have judged : recognizer.isCode (Text.trim line) = recognizer.isCode line := by
    rw [isCode, trimmed, isCode]
  have content : classifyComment regions recognizer comment =
      (if recognizer.isCode line then .code else .text) := by
    rw [classifyComment, body, if_neg (by simpa using nonempty), judged]
  refine ⟨content, ?_⟩
  intro number
  rw [Command.classifiedLine, recognized, verdict, content, body, trimmed]
  cases recognizer.isCode line <;> rfl

theorem import_verdict_ignores_margins :
    (Language.python.recognizer 0.9).footprint ∈ [Footprint.cFamily, Footprint.python] ∧
    AllBlank ['\t'] ∧ AllBlank [' ', '\u3000'] ∧
    commentBody Language.python.regions "#  import os".toList = Text.trim "import os".toList ∧
    (Language.python.recognizer 0.9).isCode (['\t'] ++ "import os".toList ++ [' ', '\u3000']) =
      (Language.python.recognizer 0.9).isCode "import os".toList ∧
    classifyComment Language.python.regions (Language.python.recognizer 0.9)
        "#  import os".toList =
      (if (Language.python.recognizer 0.9).isCode "import os".toList then .code else .text) := by
  have known : (Language.python.recognizer 0.9).footprint ∈
      [Footprint.cFamily, Footprint.python] := List.mem_cons_of_mem _ List.mem_cons_self
  have body : commentBody Language.python.regions "#  import os".toList =
      Text.trim "import os".toList := by decide
  obtain ⟨_, _, verdict, comments⟩ := verdict_ignores_margins known
    (by decide : AllBlank ['\t']) (by decide : AllBlank [' ', '\u3000']) "import os".toList
  exact ⟨known, by decide, by decide, body, verdict, (comments _ _ body (by decide)).1⟩

end Recognizer

end CodeMetrics
