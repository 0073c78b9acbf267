import CodeMetrics.Proofs.Source.Decisions

/-!
The recognizer only judges the bodies of comments. Classification falls into two parts: drafts of
the lines, which no recognizer has a say in, and one judgement for each draft with a comment, which
no later line can see. So two recognizers agree on everything but whether a comment holds text or
code.
-/

namespace CodeMetrics

def Recognizer.judge (recognizer : Recognizer) (body : List Char) : CommentContent :=
  if body.isEmpty then .blank
  else if recognizer.isCode body then .code
  else .text

/-- A line whose comments are still to be judged. -/
structure LineDraft where
  number : Nat
  code : List Char
  bareCode : List Char
  /-- The text of the comments without their markers, where a comment reaches into the line. -/
  body? : Option (List Char)
  deriving DecidableEq, Repr

namespace LineDraft

def hasCode (draft : LineDraft) : Bool :=
  draft.code.any fun c => !Text.isBlank c

def judged (recognizer : Recognizer) (draft : LineDraft) : Line where
  number := draft.number
  hasCode := draft.hasCode
  comment? := draft.body?.map recognizer.judge
  code := draft.code
  bareCode := draft.bareCode

end LineDraft

def LineProgress.draft (regions : List Region) (number : Nat) (progress : LineProgress) :
    LineDraft where
  number
  code := progress.outside.reverse
  bareCode := progress.bare.reverse
  body? := if progress.touchesComment then some (commentBody regions progress.comment.reverse)
    else none

def draftLines? (regions : List Region) :
    Nat → Option OpenRegion → List (List Char) → Option (List LineDraft)
  | _, _, [] => some []
  | number, open?, text :: others => do
    let progress ← text.foldlM (LineProgress.consume? regions) (LineProgress.start open?)
    let drafts ← draftLines? regions (number + 1) progress.openAfter others
    return progress.draft regions (number + 1) :: drafts

/-! Classification is drafting and judging. -/

theorem LineProgress.finish_eq_judged (regions : List Region) (recognizer : Recognizer)
    (number : Nat) (progress : LineProgress) :
    progress.finish regions recognizer number =
      (progress.draft regions number).judged recognizer := by
  simp only [finish, draft, LineDraft.judged, LineDraft.hasCode, List.any_reverse]
  cases progress.touchesComment <;> rfl

theorem classifyLines?_eq_judged (regions : List Region) (recognizer : Recognizer)
    (texts : List (List Char)) (number : Nat) (open? : Option OpenRegion) :
    classifyLines? regions recognizer number open? texts =
      (draftLines? regions number open? texts).map (List.map (LineDraft.judged recognizer)) := by
  induction texts generalizing number open? with
  | nil => rfl
  | cons text others ih =>
    rw [classifyLines?, draftLines?]
    cases text.foldlM (LineProgress.consume? regions) (LineProgress.start open?) with
    | none => rfl
    | some progress =>
      simp only [bind, Option.bind_some, ih, pure, LineProgress.finish_eq_judged]
      cases draftLines? regions (number + 1) progress.openAfter others with
      | none => rfl
      | some drafts => rfl

namespace Source

def drafts? (regions : List Region) (text : List Char) : Option (List LineDraft) :=
  draftLines? regions 0 none (Text.lines text)

def judged (recognizer : Recognizer) (drafts : List LineDraft) : Source :=
  ⟨drafts.map (LineDraft.judged recognizer)⟩

theorem ofText?_eq_judged (regions : List Region) (recognizer : Recognizer) (text : List Char) :
    ofText? regions recognizer text = (drafts? regions text).map (judged recognizer) := by
  rw [ofText?, classifyLines?_eq_judged, Option.map_map]
  rfl

end Source

/-! What two judgements of one draft share. -/

theorem Recognizer.judge_eq_blank_iff (recognizer : Recognizer) (body : List Char) :
    recognizer.judge body = .blank ↔ body = [] := by
  unfold judge
  cases body with
  | nil => simp
  | cons c rest =>
    by_cases code : recognizer.isCode (c :: rest) = true
    · simp [code]
    · simp [code]

/-- Lines that differ at most in whether a comment holds text or code. -/
structure Line.SameOutline (first second : Line) : Prop where
  number : first.number = second.number
  hasCode : first.hasCode = second.hasCode
  code : first.code = second.code
  bareCode : first.bareCode = second.bareCode
  commented : first.comment?.isSome = second.comment?.isSome
  blank : first.comment? = some .blank ↔ second.comment? = some .blank

namespace LineDraft

variable (recognizer : Recognizer) (draft : LineDraft)

theorem comment?_eq_blank_iff :
    (draft.judged recognizer).comment? = some .blank ↔ draft.body? = some [] := by
  simp only [judged, Option.map_eq_some_iff, Recognizer.judge_eq_blank_iff]
  constructor
  · rintro ⟨body, found, rfl⟩
    exact found
  · intro found
    exact ⟨[], found, rfl⟩

theorem sameOutline (other : Recognizer) :
    (draft.judged recognizer).SameOutline (draft.judged other) where
  number := rfl
  hasCode := rfl
  code := rfl
  bareCode := rfl
  commented := by simp [judged]
  blank := by rw [comment?_eq_blank_iff, comment?_eq_blank_iff]

theorem isBlank_judged :
    (draft.judged recognizer).isBlank = (!draft.hasCode && draft.body?.isNone) := by
  simp [Line.isBlank, judged]

/-- A comment that is not blank holds either text or code. -/
theorem text_or_code :
    (if (draft.judged recognizer).comment? = some .text then 1 else 0) +
        (if (draft.judged recognizer).comment? = some .code then 1 else 0) =
      if draft.body?.any (fun body => !body.isEmpty) then 1 else 0 := by
  cases found : draft.body? with
  | none => simp [judged, found]
  | some body =>
    cases body with
    | nil => simp [judged, found, Recognizer.judge]
    | cons c rest =>
      by_cases code : recognizer.isCode (c :: rest) = true
      · simp [judged, found, Recognizer.judge, code]
      · simp [judged, found, Recognizer.judge, code]

end LineDraft

namespace Source

variable (recognizer : Recognizer) (drafts : List LineDraft)

theorem blankLines_judged : (judged recognizer drafts).totals.blankLines =
    drafts.countP fun draft => !draft.hasCode && draft.body?.isNone := by
  simp only [totals, judged, List.countP_map]
  congr 1
  funext draft
  exact draft.isBlank_judged recognizer

theorem linesOfCode_judged :
    (judged recognizer drafts).totals.linesOfCode = drafts.countP LineDraft.hasCode := by
  simp only [totals, judged, List.countP_map]
  rfl

theorem commentBlankLines_judged : (judged recognizer drafts).totals.commentBlankLines =
    drafts.countP fun draft => draft.body? = some [] := by
  simp only [totals, judged, List.countP_map]
  congr 1
  funext draft
  rw [Function.comp_apply, decide_eq_decide]
  exact draft.comment?_eq_blank_iff recognizer

theorem commentLines_judged :
    (judged recognizer drafts).totals.commentLines +
        (judged recognizer drafts).totals.commentedOutCodeLines =
      drafts.countP fun draft => draft.body?.any fun body => !body.isEmpty := by
  simp only [totals, judged]
  induction drafts with
  | nil => rfl
  | cons draft others ih =>
    have one := draft.text_or_code recognizer
    simp only [List.map_cons, List.countP_cons, decide_eq_true_eq] at ih ⊢
    omega

end Source

theorem Language.complexity_eq_drafts (language : Language) (recognizer : Recognizer)
    (text : List Char) : language.complexity recognizer text =
      1 + (((((Source.drafts? language.regions text).getD []).filter LineDraft.hasCode).map
        fun draft => language.decisions draft.bareCode)).sum := by
  have code : Line.hasCode ∘ LineDraft.judged recognizer = LineDraft.hasCode := rfl
  have source : language.source recognizer text =
      Source.judged recognizer ((Source.drafts? language.regions text).getD []) := by
    rw [Language.source, Source.ofText?_eq_judged]
    cases Source.drafts? language.regions text <;> rfl
  rw [complexity_eq_decisionsOf, source, decisionsOf, Source.judged, List.filter_map, code,
    List.map_map]
  rfl

/-- Two recognizers classify a text the same, or both fail to: they agree on every line but for
whether a comment that is not blank holds text or code, on all totals but for how they share out the
comments that are not blank, and on the complexity. -/
theorem Source.recognizer_only_judges_comments (regions : List Region) (text : List Char)
    (first second : Recognizer) :
    Option.Rel (fun one other : Source =>
        List.Forall₂ Line.SameOutline one.lines other.lines ∧
        one.totals.lines = other.totals.lines ∧
        one.totals.blankLines = other.totals.blankLines ∧
        one.totals.linesOfCode = other.totals.linesOfCode ∧
        one.totals.commentBlankLines = other.totals.commentBlankLines ∧
        one.totals.commentLines + one.totals.commentedOutCodeLines =
          other.totals.commentLines + other.totals.commentedOutCodeLines)
      (ofText? regions first text) (ofText? regions second text) ∧
    ∀ language : Language, language.complexity first text = language.complexity second text := by
  refine ⟨?_, fun language => ?_⟩
  · rw [ofText?_eq_judged, ofText?_eq_judged]
    cases drafts? regions text with
    | none => exact .none
    | some drafts =>
      refine .some ⟨?_, by simp [totals, judged], ?_, ?_, ?_, ?_⟩
      · rw [judged, judged, List.forall₂_map_left_iff, List.forall₂_map_right_iff]
        exact List.forall₂_same.2 fun draft _ => draft.sameOutline first second
      · rw [blankLines_judged, blankLines_judged]
      · rw [linesOfCode_judged, linesOfCode_judged]
      · rw [commentBlankLines_judged, commentBlankLines_judged]
      · rw [commentLines_judged, commentLines_judged]
  · rw [language.complexity_eq_drafts, language.complexity_eq_drafts]

end CodeMetrics
