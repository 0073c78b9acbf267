import CodeMetrics.Proofs.Source.Decisions
import CodeMetrics.Proofs.Source.Refinement

/-!
Decision points around comments and literals. The comments and literals of a line cut its code into
pieces. The complexity counts the decision points of the pieces glued together, as if nothing had
stood between them; with a space for each comment and literal, the decision points of the pieces
would add up. The two counts differ by what happens at the seams, and are equal where the pieces do
not touch.
-/

namespace CodeMetrics

/-- The code of a line: what stands before its first comment or literal, and what stands behind each
of them. -/
structure CodePieces where
  first : List Char := []
  others : List (List Char) := []
  deriving DecidableEq, Repr

namespace CodePieces

def glued (pieces : CodePieces) : List Char :=
  pieces.first ++ pieces.others.flatten

def spaced (pieces : CodePieces) : List Char :=
  pieces.first ++ pieces.others.flatMap (' ' :: ·)

/-- The seams behind a text, each as all that stands before it and the piece behind it. -/
def seamsAfter : List Char → List (List Char) → List (List Char × List Char)
  | _, [] => []
  | left, right :: others => (left, right) :: seamsAfter (left ++ right) others

def seams (pieces : CodePieces) : List (List Char × List Char) :=
  seamsAfter pieces.first pieces.others

def behind (pieces : CodePieces) : CodePieces :=
  ⟨[], pieces.first :: pieces.others⟩

/-- The pieces of a line with one more character at its front, which is read in a state and has a
role: it is code, it begins a comment or literal, or it goes on with one. -/
def put (state : LexState) (role : CharRole) (c : Char) (pieces : CodePieces) : CodePieces :=
  if state = .code then
    if role = .code then { pieces with first := c :: pieces.first } else pieces.behind
  else pieces

end CodePieces

def Lexicon.pieces (lexicon : Lexicon) : LexState → List Char → CodePieces
  | _, [] => {}
  | state, [c] => CodePieces.put state (lexicon.step state c none).role c {}
  | state, c :: next :: rest =>
    let first := lexicon.step state c (some next)
    if first.takesNext then (lexicon.pieces first.state rest).put state first.role c
    else (lexicon.pieces first.state (next :: rest)).put state first.role c

namespace Language

def linePieces (language : Language) : LexState → List (List Char) → List CodePieces
  | _, [] => []
  | state, text :: others =>
    let line := language.lexicon.pieces state text
    (if state = .code then line else line.behind) ::
      language.linePieces (language.lexicon.read state text).2.afterBreak others

def codePieces (language : Language) (text : List Char) : List CodePieces :=
  language.linePieces .code (Text.lines text)

/-- One more than the decision points of a text, when comments and literals separate what stands
around them. -/
def spacedComplexity (language : Language) (text : List Char) : Nat :=
  1 + ((language.codePieces text).map fun line => language.decisions line.spaced).sum

def hidden (language : Language) (line : CodePieces) : Nat :=
  (line.seams.map fun seam => language.hiddenKeywords seam.1 seam.2).sum

def made (language : Language) (line : CodePieces) : Nat :=
  (line.seams.map fun seam =>
    language.madeKeywords seam.1 seam.2 + language.madeOperators seam.1 seam.2).sum

/-- Whether two texts touch: the characters on the two sides of their seam belong to one word, or
are an operator together. -/
def touches (language : Language) (left right : List Char) : Bool :=
  left.getLast?.any fun last => right.head?.any fun first =>
    !isCodeSeparator last && !isCodeSeparator first || language.operatorTexts.contains [last, first]

end Language

/-! The glued pieces are the bare code. -/

theorem CodePieces.glued_behind (pieces : CodePieces) : pieces.behind.glued = pieces.glued := rfl

theorem CodePieces.glued_put (state : LexState) (role : CharRole) (c : Char)
    (pieces : CodePieces) (kept : state ≠ .code → role ≠ .code) :
    (pieces.put state role c).glued = (if role = .code then [c] else []) ++ pieces.glued := by
  rw [put]
  by_cases inCode : state = .code
  · rw [if_pos inCode]
    by_cases isCode : role = .code
    · simp [isCode, glued]
    · simp [isCode, glued_behind]
  · simp [inCode, kept inCode]

namespace Lexicon

variable (lexicon : Lexicon) (state : LexState) (c : Char) (next? : Option Char)

theorem role_step (inside : state ≠ .code) : (lexicon.step state c next?).role ≠ .code := by
  cases state with
  | code => exact absurd rfl inside
  | lineComment => simp [step]
  | blockComment =>
    simp only [step]
    split <;> simp
  | literal delimiter backslashes =>
    simp only [step]
    split <;> simp

theorem role_of_takesNext (paired : (lexicon.step state c next?).takesNext = true) :
    (lexicon.step state c next?).role = .comment := by
  cases state with
  | code =>
    simp only [step] at paired ⊢
    split
    · rfl
    · split
      · rfl
      · next line block =>
        rw [if_neg line, if_neg block] at paired
        split at paired
        · cases paired
        · split at paired <;> cases paired
  | lineComment => cases paired
  | blockComment =>
    simp only [step]
    split <;> rfl
  | literal delimiter backslashes =>
    simp only [step] at paired
    split at paired <;> cases paired

theorem glued_pieces (text : List Char) :
    (lexicon.pieces state text).glued = charsOf [.code] (lexicon.read state text).1 := by
  fun_induction Lexicon.read lexicon state text with
  | case1 state => rfl
  | case2 state c first =>
    rw [pieces, CodePieces.glued_put _ _ _ _ (lexicon.role_step state c none),
      charsOf_singleton_cons]
    rfl
  | case3 state c next rest first paired others last readRest ih =>
    have comment := lexicon.role_of_takesNext state c (some next) paired
    rw [readRest] at ih
    rw [pieces, if_pos paired,
      CodePieces.glued_put _ _ _ _ (lexicon.role_step state c (some next)), ih,
      charsOf_singleton_cons, charsOf_singleton_cons]
    simp [first, comment]
  | case4 state c next rest first alone others last readRest ih =>
    rw [readRest] at ih
    rw [pieces, if_neg alone,
      CodePieces.glued_put _ _ _ _ (lexicon.role_step state c (some next)), ih,
      charsOf_singleton_cons]

end Lexicon

/-! The decision points of the pieces. -/

namespace Language

variable (language : Language)

/-- Decision points lie on lines with code only. -/
theorem decisions_lexedLine (regions : List Region) (recognizer : Recognizer) (number : Nat)
    (start : LexState) (line : List (Char × CharRole))
    (codeless : (lexedLine regions recognizer number start line).hasCode = false) :
    language.decisions (charsOf [.code] line) = 0 := by
  apply decisions_blank
  intro c found
  rw [lexedLine, List.any_eq_false] at codeless
  obtain ⟨entry, kept, rfl⟩ := List.mem_map.1 found
  obtain ⟨member, isCode⟩ := List.mem_filter.1 kept
  have shown : entry.1 ∈ charsOf [.code, .literal] line := by
    refine List.mem_map_of_mem (List.mem_filter.2 ⟨member, ?_⟩)
    simp only [List.contains_cons, List.contains_nil, Bool.or_false] at isCode ⊢
    rw [isCode, Bool.true_or]
  simpa using codeless entry.1 shown

theorem decisionsOf_lexedLines (recognizer : Recognizer) (texts : List (List Char))
    (number : Nat) (state : LexState) :
    language.decisionsOf (language.lexedLines recognizer number state texts) =
      ((language.linePieces state texts).map fun line => language.decisions line.glued).sum := by
  induction texts generalizing number state with
  | nil => rfl
  | cons text others ih =>
    have glued : (if state = .code then language.lexicon.pieces state text
          else (language.lexicon.pieces state text).behind).glued =
        charsOf [.code] (language.lexicon.read state text).1 := by
      rw [← Lexicon.glued_pieces]
      split
      · rfl
      · exact CodePieces.glued_behind _
    rw [lexedLines, linePieces, List.map_cons, List.sum_cons, glued, ← ih (number + 1),
      decisionsOf, decisionsOf]
    cases hasCode : (lexedLine language.regions recognizer (number + 1) state
        (language.lexicon.read state text).1).hasCode with
    | true =>
      rw [List.filter_cons_of_pos hasCode, List.map_cons, List.sum_cons]
      rfl
    | false =>
      rw [List.filter_cons_of_neg (by simp [hasCode]),
        language.decisions_lexedLine _ _ _ _ _ hasCode, Nat.zero_add]

theorem complexity_eq_glued (recognizer : Recognizer) (text : List Char) :
    language.complexity recognizer text =
      1 + ((language.codePieces text).map fun line => language.decisions line.glued).sum := by
  have source : language.source recognizer text =
      ⟨language.lexedLines recognizer 0 .code (Text.lines text)⟩ := by
    rw [Language.source, Source.ofText?, classifyLines?_eq_lexedLines language recognizer _ _ .code
      none language.lexicon.resumes_code]
    rfl
  rw [complexity_eq_decisionsOf, source, decisionsOf_lexedLines, codePieces]

theorem decisions_spaced_after (left : List Char) (others : List (List Char)) :
    language.decisions (left ++ others.flatMap (' ' :: ·)) =
      language.decisions left + (others.map language.decisions).sum := by
  induction others generalizing left with
  | nil => simp
  | cons right others ih =>
    rw [List.flatMap_cons, List.cons_append, decisions_space, ih, List.map_cons, List.sum_cons]

theorem decisions_glued_after (left : List Char) (others : List (List Char)) :
    language.decisions (left ++ others.flatten) +
        ((CodePieces.seamsAfter left others).map fun seam =>
          language.hiddenKeywords seam.1 seam.2).sum =
      language.decisions left + (others.map language.decisions).sum +
        ((CodePieces.seamsAfter left others).map fun seam =>
          language.madeKeywords seam.1 seam.2 + language.madeOperators seam.1 seam.2).sum := by
  induction others generalizing left with
  | nil => simp [CodePieces.seamsAfter]
  | cons right others ih =>
    have rest := ih (left ++ right)
    have seam := language.decisions_append left right
    rw [List.flatten_cons, ← List.append_assoc]
    simp only [CodePieces.seamsAfter, List.map_cons, List.sum_cons]
    omega

/-- The two counts of a line differ by what happens at its seams. -/
theorem decisions_glued_add_hidden (line : CodePieces) :
    language.decisions line.glued + language.hidden line =
      language.decisions line.spaced + language.made line := by
  rw [CodePieces.spaced, decisions_spaced_after]
  exact language.decisions_glued_after line.first line.others

/-! Pieces that do not touch. -/

variable {language} {left right : List Char}

theorem exists_last_of_rtakeWhile {test : Char → Bool} (nonempty : left.rtakeWhile test ≠ []) :
    ∃ last, left.getLast? = some last ∧ test last = true := by
  rw [ne_eq, List.rtakeWhile_eq_nil_iff, not_forall] at nonempty
  obtain ⟨present, holds⟩ := nonempty
  exact ⟨left.getLast present, List.getLast?_eq_some_getLast present, not_not.1 holds⟩

theorem exists_first_of_takeWhile {test : Char → Bool} (nonempty : right.takeWhile test ≠ []) :
    ∃ first, right.head? = some first ∧ test first = true := by
  cases right with
  | nil => simp at nonempty
  | cons c rest =>
    refine ⟨c, rfl, ?_⟩
    by_contra fails
    simp [fails] at nonempty

theorem not_joinsWords_of_apart (apart : language.touches left right = false) :
    ¬JoinsWords left right := by
  rintro ⟨before, after⟩
  obtain ⟨last, ends, inWord⟩ := exists_last_of_rtakeWhile before
  obtain ⟨first, begins, inNext⟩ := exists_first_of_takeWhile after
  simp only [touches, ends, begins, Option.any_some, inWord, inNext] at apart
  cases apart

theorem not_completes_of_apart (apart : language.touches left right = false) :
    ∀ operator ∈ language.operatorTexts, ¬completes operator left right = true := by
  intro operator known completed
  obtain ⟨d, rfl | rfl⟩ := language.operatorTexts_cases operator known
  · cases completed
  · rw [completes, Bool.and_eq_true, beq_iff_eq, beq_iff_eq] at completed
    have nonempty : ∀ {run : List Char}, run.length % 2 = 1 → run ≠ [] := by
      rintro run odd rfl
      cases odd
    obtain ⟨last, ends, same⟩ := exists_last_of_rtakeWhile (nonempty completed.1)
    obtain ⟨first, begins, alike⟩ := exists_first_of_takeWhile (nonempty completed.2)
    obtain rfl := beq_iff_eq.1 same
    obtain rfl := beq_iff_eq.1 alike
    have listed : language.operatorTexts.contains [first, first] = true :=
      List.contains_iff_mem.2 known
    simp only [touches, ends, begins, Option.any_some, listed, Bool.or_true] at apart
    cases apart

variable {line : CodePieces}

theorem hidden_of_apart (apart : ∀ seam ∈ line.seams, language.touches seam.1 seam.2 = false) :
    language.hidden line = 0 := by
  apply sum_map_eq_zero
  intro seam known
  exact if_neg (not_joinsWords_of_apart (apart seam known))

theorem made_of_apart (apart : ∀ seam ∈ line.seams, language.touches seam.1 seam.2 = false) :
    language.made line = 0 := by
  apply sum_map_eq_zero
  intro seam known
  rw [madeKeywords, if_neg (not_joinsWords_of_apart (apart seam known)), madeOperators,
    List.countP_eq_zero.2 (not_completes_of_apart (apart seam known)), Nat.add_zero]

end Language

/-- The complexity of a text counts the decision points of its code with the comments and literals
taken out. It falls short of the count with a space for each of them by the keywords that are lost
at the seams, and exceeds it by the keywords and operators that come about there; where no two
pieces touch, the counts are equal. -/
theorem Language.complexity_counts_glued_pieces (language : Language) (recognizer : Recognizer)
    (text : List Char) :
    language.complexity recognizer text =
        1 + ((language.codePieces text).map fun line => language.decisions line.glued).sum ∧
      language.complexity recognizer text +
          ((language.codePieces text).map language.hidden).sum =
        language.spacedComplexity text + ((language.codePieces text).map language.made).sum ∧
      ((∀ line ∈ language.codePieces text, ∀ seam ∈ line.seams,
          language.touches seam.1 seam.2 = false) →
        language.complexity recognizer text = language.spacedComplexity text) := by
  have balance : language.complexity recognizer text +
        ((language.codePieces text).map language.hidden).sum =
      language.spacedComplexity text + ((language.codePieces text).map language.made).sum := by
    rw [complexity_eq_glued, spacedComplexity, Nat.add_assoc, Nat.add_assoc, ← List.sum_map_add,
      ← List.sum_map_add]
    simp only [decisions_glued_add_hidden]
  refine ⟨language.complexity_eq_glued recognizer text, balance, fun apart => ?_⟩
  have nothingHidden : ((language.codePieces text).map language.hidden).sum = 0 :=
    sum_map_eq_zero fun line known => hidden_of_apart (apart line known)
  have nothingMade : ((language.codePieces text).map language.made).sum = 0 :=
    sum_map_eq_zero fun line known => made_of_apart (apart line known)
  omega

def Language.sampleText : List Char :=
  "if (a /*\n*/) f(\"if\" , b && c);\n/* or */ while (d)".toList

theorem Language.complexity_eq_spaced_sample :
    (∀ line ∈ Language.c.codePieces sampleText, ∀ seam ∈ line.seams,
      Language.c.touches seam.1 seam.2 = false) ∧
    Language.c.complexity (Language.c.recognizer 0.9) sampleText =
      Language.c.spacedComplexity sampleText := by
  have apart : ∀ line ∈ Language.c.codePieces sampleText, ∀ seam ∈ line.seams,
      Language.c.touches seam.1 seam.2 = false := by decide +kernel
  exact ⟨apart, (complexity_counts_glued_pieces _ _ _).2.2 apart⟩

/-- A comment between two words hides the keyword behind it, and one between two ampersands makes an
operator of them. -/
theorem Language.complexity_glues_around_comment :
    Language.c.complexity (Language.c.recognizer 0.9) "else/**/if (b)".toList = 1 ∧
      Language.c.spacedComplexity "else/**/if (b)".toList = 2 ∧
      Language.c.complexity (Language.c.recognizer 0.9) "a &/**/& b".toList = 2 ∧
      Language.c.spacedComplexity "a &/**/& b".toList = 1 := by
  decide +kernel

end CodeMetrics
