import CodeMetrics.Proofs.Source.Comments
import CodeMetrics.Proofs.Source.Judgement
import CodeMetrics.Proofs.Source.Refinement
import CodeMetrics.Proofs.Text.Blank
import Mathlib.Data.List.Forall2

/-!
Empty comments. A line may hold several comments, and the classifier judges them all together: it
joins their texts, drops one closing marker from the end and marker characters from the front. What
is left of empty comments is therefore nothing only if no white space stands between the first
marker and the last one. White space in the last comment of a line is trimmed, and so is that in a
comment which goes on from the line before; in any other comment it stays, and the markers behind it
count as text.
-/

namespace CodeMetrics

open Text (AllBlank)

namespace CommentPart

def AllEmpty (parts : List CommentPart) : Prop :=
  ∀ part ∈ parts, AllBlank part.content

/-- There is nothing at all between the markers of comments that begin on the line, the last comment
apart. -/
def Tight (parts : List CommentPart) : Prop :=
  ∀ part ∈ parts.dropLast, part.opening ≠ [] → part.content = []

instance (parts : List CommentPart) : Decidable (AllEmpty parts) :=
  inferInstanceAs (Decidable (∀ part ∈ parts, AllBlank part.content))

instance (parts : List CommentPart) : Decidable (Tight parts) :=
  inferInstanceAs (Decidable (∀ part ∈ parts.dropLast, part.opening ≠ [] → part.content = []))

end CommentPart

namespace Lexicon

variable {lexicon : Lexicon} {inside : Bool} {parts : List CommentPart}

/-! What the classifier leaves of comments. -/

def decorates (lexicon : Lexicon) (c : Char) : Bool :=
  lexicon.openings.any fun marker => marker.contains c

def stripped (lexicon : Lexicon) (comment : List Char) : List Char :=
  if lexicon.slashes then Text.trimEnd (dropSuffix ['*', '/'] (Text.trim comment))
  else Text.trim comment

theorem filter_isComment_regions (lexicon : Lexicon) :
    lexicon.regions.filter Region.isComment =
      (if lexicon.slashes then [.lineComment ['/', '/'], .blockComment ['/', '*'] ['*', '/']]
        else []) ++ if lexicon.hash then [.lineComment ['#']] else [] := by
  have literals : (lexicon.delimiters.map fun delimiter => Region.literal [delimiter]).filter
      Region.isComment = [] := by
    rw [List.filter_eq_nil_iff]
    intro region found
    obtain ⟨delimiter, _, rfl⟩ := List.mem_map.1 found
    exact Bool.false_ne_true
  rw [regions, List.filter_append, literals, List.append_nil]
  cases lexicon.slashes <;> cases lexicon.hash <;> rfl

theorem commentBody_regions (lexicon : Lexicon) (comment : List Char) :
    commentBody lexicon.regions comment =
      Text.trim ((lexicon.stripped comment).dropWhile lexicon.decorates) := by
  have decoration : (fun c => (lexicon.regions.filter Region.isComment).any
      fun region => region.opening.contains c) = lexicon.decorates := by
    funext c
    rw [filter_isComment_regions, decorates, openings]
    cases lexicon.slashes <;> cases lexicon.hash <;> rfl
  rw [commentBody, decoration, filter_isComment_regions, stripped]
  cases lexicon.slashes <;> cases lexicon.hash <;> rfl

theorem trimEnd_stripped (lexicon : Lexicon) (comment : List Char) :
    Text.trimEnd (lexicon.stripped comment) = lexicon.stripped comment := by
  rw [stripped]
  split
  · exact List.rdropWhile_idempotent ..
  · exact List.rdropWhile_idempotent ..

/-- The body is empty just when nothing is left but characters of markers. -/
theorem commentBody_eq_nil_iff (lexicon : Lexicon) (comment : List Char) :
    commentBody lexicon.regions comment = [] ↔
      ∀ c ∈ lexicon.stripped comment, lexicon.decorates c = true := by
  rw [commentBody_regions, ← List.dropWhile_eq_nil_iff]
  constructor
  · intro trimmed
    rw [Text.trim_eq_nil_iff] at trimmed
    by_contra more
    -- What is left ends like the stripped text, and that ends with no white space.
    have blank := trimmed _ (List.getLast_mem more)
    have suffix : (lexicon.stripped comment).dropWhile lexicon.decorates <:+
        lexicon.stripped comment := List.dropWhile_suffix _
    have ending := suffix.getLast more
    rw [ending] at blank
    exact List.rdropWhile_eq_self_iff.1 (lexicon.trimEnd_stripped comment) _ blank
  · intro nothing
    rw [nothing]
    rfl

/-! What is left of empty comments. -/

theorem decorates_of_mem {marker : List Char} (known : marker ∈ lexicon.openings) :
    ∀ c ∈ marker, lexicon.decorates c = true := by
  intro c found
  rw [decorates, List.any_eq_true]
  exact ⟨marker, known, by simpa using found⟩

theorem decorates_closing (slashes : lexicon.slashes = true) :
    ∀ c ∈ ['*', '/'], lexicon.decorates c = true := by
  simp [decorates, openings, slashes]

theorem isBlank_of_decorates {c : Char} (decorates : lexicon.decorates c = true) :
    Text.isBlank c = false := by
  obtain ⟨marker, known, found⟩ := List.any_eq_true.1 decorates
  have solid : (marker.all fun d => !Text.isBlank d) = true := by
    rcases of_mem_openings known with rfl | rfl | rfl <;> decide
  simpa using List.all_eq_true.1 solid c (by simpa using found)

theorem isBlank_of_mem_openings {marker : List Char} (known : marker ∈ lexicon.openings) :
    ∀ c ∈ marker, Text.isBlank c = false :=
  fun c found => isBlank_of_decorates (decorates_of_mem known c found)

theorem dropSuffix_append (suffix text : List Char) :
    dropSuffix suffix (text ++ suffix) = text := by
  rw [dropSuffix, if_pos (by simp), List.length_append, Nat.add_sub_cancel, List.take_left]

/-- The comments of a line up to the opening marker of the last one. -/
def upToLast : List CommentPart → List Char
  | [] => []
  | [last] => last.opening
  | part :: next :: rest => part.text ++ upToLast (next :: rest)

theorem text_eq_upToLast (parts : List CommentPart) (last : CommentPart)
    (ends : parts.getLast? = some last) :
    parts.flatMap CommentPart.text = upToLast parts ++ (last.content ++ last.closing) := by
  match parts with
  | [] => cases ends
  | [part] =>
    cases ends
    simp [upToLast, CommentPart.text]
  | part :: next :: rest =>
    rw [List.getLast?_cons_cons] at ends
    rw [List.flatMap_cons, text_eq_upToLast (next :: rest) last ends, upToLast, List.append_assoc]

/-- Where all comments begin on the line, what comes before the last content ends with a marker. -/
theorem Laid.upToLast_ends (laid : lexicon.Laid false parts) (nonempty : parts ≠ []) :
    ∃ front, ∃ marker ∈ lexicon.openings, upToLast parts = front ++ marker := by
  induction parts with
  | nil => exact absurd rfl nonempty
  | cons part others ih =>
    cases others with
    | nil => exact ⟨[], part.opening, laid.1, rfl⟩
    | cons next rest =>
      obtain ⟨_, _, later⟩ := laid.of_cons_cons
      obtain ⟨front, marker, known, ends⟩ := ih later (List.cons_ne_nil next rest)
      exact ⟨part.text ++ front, marker, known, by rw [upToLast, ends, List.append_assoc]⟩

theorem Laid.upToLast_eq_nil_or_ends (laid : lexicon.Laid inside parts) :
    upToLast parts = [] ∨
      ∃ front, ∃ marker ∈ lexicon.openings, upToLast parts = front ++ marker := by
  match inside, parts with
  | _, [] => exact .inl rfl
  | false, part :: others => exact .inr (laid.upToLast_ends (List.cons_ne_nil part others))
  | true, [part] => exact .inl laid.1
  | true, part :: next :: rest =>
    obtain ⟨_, _, later⟩ := laid.of_cons_cons
    obtain ⟨front, marker, known, ends⟩ := later.upToLast_ends (List.cons_ne_nil next rest)
    exact .inr ⟨part.text ++ front, marker, known, by rw [upToLast, ends, List.append_assoc]⟩

theorem Laid.closing_last (laid : lexicon.Laid inside parts) {last : CommentPart}
    (ends : parts.getLast? = some last) :
    last.closing = [] ∨ last.closing = ['*', '/'] ∧ lexicon.slashes = true := by
  induction parts generalizing inside with
  | nil => cases ends
  | cons part others ih =>
    rcases laid.2 with ⟨closing, rfl⟩ | ⟨closing, slashes, later⟩
    · cases ends
      exact .inl closing
    · cases others with
      | nil =>
        cases ends
        exact .inr ⟨closing, slashes⟩
      | cons next rest =>
        rw [List.getLast?_cons_cons] at ends
        exact ih later ends

theorem Laid.trim_upToLast (laid : lexicon.Laid inside parts) :
    Text.trim (upToLast parts) = Text.trimStart (upToLast parts) := by
  rcases laid.upToLast_eq_nil_or_ends with nothing | ⟨front, marker, known, ends⟩
  · rw [nothing]
    rfl
  · have nonempty := ne_nil_of_mem_openings known
    have solid := isBlank_of_mem_openings known
    have kept := Text.trimStart_append_solid front nonempty solid []
    rw [List.append_nil] at kept
    rw [ends, Text.trim_append_solid front nonempty solid, kept]

/-- An opening marker does not end like a closing one. -/
theorem Laid.dropSuffix_upToLast (laid : lexicon.Laid inside parts) :
    dropSuffix ['*', '/'] (Text.trimStart (upToLast parts)) = Text.trimStart (upToLast parts) := by
  rcases laid.upToLast_eq_nil_or_ends with nothing | ⟨front, marker, known, ends⟩
  · rw [nothing]
    rfl
  · have kept := Text.trim_append_solid front (ne_nil_of_mem_openings known)
      (isBlank_of_mem_openings known)
    rw [← laid.trim_upToLast, ends, kept, dropSuffix, if_neg]
    rw [List.isSuffixOf_iff_suffix, ← List.reverse_prefix, List.reverse_append]
    rcases of_mem_openings known with rfl | rfl | rfl <;> simp

/-- The content of the last comment and its closing marker go away. -/
theorem Laid.stripped_text (laid : lexicon.Laid inside parts) (empty : CommentPart.AllEmpty parts)
    {last : CommentPart} (ends : parts.getLast? = some last) :
    lexicon.stripped (parts.flatMap CommentPart.text) = Text.trimStart (upToLast parts) := by
  have blank : AllBlank last.content := empty last (List.mem_of_getLast? ends)
  have trimmed : ∀ text, Text.trim (text ++ last.content) = Text.trim text :=
    fun text => Text.trim_append text (List.forall_mem_nil _ : AllBlank []) blank
  rw [text_eq_upToLast parts last ends]
  -- Where the last comment is closed, its content is trimmed only after the marker is gone.
  rcases laid.closing_last ends with closing | ⟨closing, slashes⟩
  · rw [closing, List.append_nil, stripped, trimmed, laid.trim_upToLast, laid.dropSuffix_upToLast,
      ← Text.trim, laid.trim_upToLast, ite_self]
  · have marker : Text.trim (upToLast parts ++ (last.content ++ ['*', '/'])) =
        Text.trimStart (upToLast parts ++ last.content) ++ ['*', '/'] := by
      rw [← List.append_assoc]
      exact Text.trim_append_solid _ (List.cons_ne_nil _ _)
        fun c found => isBlank_of_decorates (decorates_closing slashes c found)
    rw [closing, stripped, if_pos slashes, marker, dropSuffix_append, ← Text.trim, trimmed,
      laid.trim_upToLast]

/-- White space is no part of a marker. -/
theorem content_eq_nil_iff {content : List Char} (blank : AllBlank content) :
    (∀ c ∈ content, lexicon.decorates c = true) ↔ content = [] := by
  cases content with
  | nil => simp
  | cons c rest =>
    refine ⟨fun decorated => ?_, fun nothing => by cases nothing⟩
    have solid := isBlank_of_decorates (decorated c List.mem_cons_self)
    cases solid.symm.trans (blank c List.mem_cons_self)

theorem Laid.decorated_upToLast_iff (laid : lexicon.Laid false parts)
    (empty : CommentPart.AllEmpty parts) :
    (∀ c ∈ upToLast parts, lexicon.decorates c = true) ↔ CommentPart.Tight parts := by
  induction parts with
  | nil => simp [upToLast, CommentPart.Tight]
  | cons part others ih =>
    have marker := decorates_of_mem laid.1
    cases others with
    | nil => simpa [upToLast, CommentPart.Tight] using marker
    | cons next rest =>
      obtain ⟨closing, slashes, later⟩ := laid.of_cons_cons
      obtain ⟨blank, emptyRest⟩ := List.forall_mem_cons.1 empty
      have decorated : (∀ c ∈ part.text, lexicon.decorates c = true) ↔ part.content = [] := by
        rw [CommentPart.text, closing, List.forall_mem_append, List.forall_mem_append,
          and_iff_right marker, and_iff_left (decorates_closing slashes), content_eq_nil_iff blank]
      rw [upToLast, List.forall_mem_append, decorated, ih later emptyRest, CommentPart.Tight,
        CommentPart.Tight, List.dropLast_cons_cons, List.forall_mem_cons,
        forall_prop_of_true (ne_nil_of_mem_openings laid.1)]

/-- The body of empty comments is empty just when they are tight. -/
theorem Laid.commentBody_eq_nil_iff_tight (laid : lexicon.Laid inside parts)
    (nonempty : parts ≠ []) (empty : CommentPart.AllEmpty parts) :
    commentBody lexicon.regions (parts.flatMap CommentPart.text) = [] ↔
      CommentPart.Tight parts := by
  rw [lexicon.commentBody_eq_nil_iff,
    laid.stripped_text empty (List.getLast?_eq_some_getLast nonempty)]
  match inside, parts with
  | false, part :: others =>
    have begins : ∃ rest, upToLast (part :: others) = part.opening ++ rest := by
      cases others with
      | nil => exact ⟨[], (List.append_nil _).symm⟩
      | cons next rest => exact ⟨_, by rw [upToLast, CommentPart.text, List.append_assoc]⟩
    obtain ⟨rest, begins⟩ := begins
    have kept : Text.trimStart (upToLast (part :: others)) = upToLast (part :: others) := by
      rw [begins]
      exact Text.trimStart_append_solid [] (ne_nil_of_mem_openings laid.1)
        (isBlank_of_mem_openings laid.1) rest
    rw [kept, laid.decorated_upToLast_iff empty]
  | true, [part] =>
    have unopened : upToLast [part] = [] := laid.1
    simp [unopened, Text.trimStart, CommentPart.Tight]
  | true, part :: next :: rest =>
    obtain ⟨closing, slashes, later⟩ := laid.of_cons_cons
    obtain ⟨blank, emptyRest⟩ := List.forall_mem_cons.1 empty
    have unopened : part.opening = [] := laid.1
    have trimmed : Text.trimStart (upToLast (part :: next :: rest)) =
        ['*', '/'] ++ upToLast (next :: rest) := by
      rw [upToLast, CommentPart.text, unopened, closing, List.nil_append, List.append_assoc,
        Text.trimStart_append_solid _ (List.cons_ne_nil _ _)
          fun c found => isBlank_of_decorates (decorates_closing slashes c found),
        (Text.trimStart_eq_nil_iff part.content).2 blank, List.nil_append]
    have tight : CommentPart.Tight (part :: next :: rest) ↔ CommentPart.Tight (next :: rest) := by
      rw [CommentPart.Tight, List.dropLast_cons_cons, List.forall_mem_cons,
        and_iff_right fun opened => absurd unopened opened, CommentPart.Tight]
    rw [trimmed, List.forall_mem_append, and_iff_right (decorates_closing slashes),
      later.decorated_upToLast_iff emptyRest, tight]

end Lexicon

structure Line.ShowsComments (line : Line) (comments : List CommentPart) : Prop where
  commented : line.comment?.isSome ↔ comments ≠ []
  blank : comments ≠ [] → CommentPart.AllEmpty comments →
    (line.comment? = some .blank ↔ CommentPart.Tight comments)

namespace Language

variable (language : Language) (recognizer : Recognizer)

theorem showsComments_lexedLine (number : Nat) {state : LexState} (text : List Char)
    (begins : state = .code ∨ state = .blockComment) (allowed : language.lexicon.Allows state) :
    Line.ShowsComments
      (lexedLine language.regions recognizer number state (language.lexicon.read state text).1)
      (language.lexicon.comments state text) := by
  have laid := Lexicon.laid_comments allowed text
  have reaches := laid.reaches_iff
  rw [LexState.inComment_iff begins, Lexicon.text_comments allowed text] at reaches
  constructor
  · rw [← reaches, lexedLine]
    split
    next touched => simp [touched]
    next untouched => simp [untouched]
  · intro nonempty empty
    have body := laid.commentBody_eq_nil_iff_tight nonempty empty
    rw [Lexicon.text_comments allowed text, language.regions_lexicon] at body
    rw [lexedLine, if_pos (reaches.2 nonempty), Option.some.injEq, ← body]
    exact recognizer.judge_eq_blank_iff _

theorem showsComments_lexedLines (texts : List (List Char)) (number : Nat) {state : LexState}
    (begins : state = .code ∨ state = .blockComment) (allowed : language.lexicon.Allows state) :
    List.Forall₂ Line.ShowsComments (language.lexedLines recognizer number state texts)
      (language.lineComments state texts) := by
  induction texts generalizing number state with
  | nil => exact .nil
  | cons text others ih =>
    exact .cons (language.showsComments_lexedLine recognizer (number + 1) text begins allowed)
      (ih (number + 1) (LexState.afterBreak_cases _)
        (Lexicon.allows_afterBreak (Lexicon.allows_read allowed text)))

end Language

/-- Only comments that hold something, or that are not tight, count as text or as code. -/
theorem countP_showsComments {lines : List Line} {comments : List (List CommentPart)}
    (shows : List.Forall₂ Line.ShowsComments lines comments) :
    lines.countP (fun line => line.comment? = some .text) +
        lines.countP (fun line => line.comment? = some .code) ≤
      comments.countP fun parts => ¬(CommentPart.AllEmpty parts ∧ CommentPart.Tight parts) := by
  induction shows with
  | nil => simp
  | @cons line parts lines comments first others ih =>
    have blank : CommentPart.AllEmpty parts ∧ CommentPart.Tight parts →
        line.comment? ≠ some .text ∧ line.comment? ≠ some .code := by
      rintro ⟨empty, tight⟩
      cases found : line.comment? with
      | none => simp
      | some content =>
        have nonempty := first.commented.1 (by rw [found]; rfl)
        rw [(first.blank nonempty empty).2 tight] at found
        cases found
        simp
    simp only [List.countP_cons, decide_eq_true_eq]
    by_cases quiet : CommentPart.AllEmpty parts ∧ CommentPart.Tight parts
    · obtain ⟨noText, noCode⟩ := blank quiet
      rw [if_neg noText, if_neg noCode, if_neg (not_not_intro quiet)]
      exact ih
    · have once : (if line.comment? = some .text then 1 else 0) +
          (if line.comment? = some .code then 1 else 0) ≤ 1 := by
        by_cases isText : line.comment? = some .text
        · simp [isText]
        · rw [if_neg isText]
          split <;> omega
      rw [if_pos quiet]
      omega

namespace Source

/-- Where comments hold nothing but white space, the line counts as one with a blank comment just
when they are tight. So lines with text or code in their comments have a comment that holds
something, or empty ones that are not tight. -/
theorem empty_comments_blank_iff_tight (language : Language) (recognizer : Recognizer)
    (text : List Char) :
    ∃ source, ofText? language.regions recognizer text = some source ∧
      List.Forall₂ Line.ShowsComments source.lines (language.comments text) ∧
      source.totals.commentLines + source.totals.commentedOutCodeLines ≤
        (language.comments text).countP fun comments =>
          ¬(CommentPart.AllEmpty comments ∧ CommentPart.Tight comments) := by
  have shows := language.showsComments_lexedLines recognizer (Text.lines text) 0 (.inl rfl)
    fun block => by cases block
  refine ⟨_, ?_, shows, countP_showsComments shows⟩
  rw [ofText?, classifyLines?_eq_lexedLines language recognizer _ _ .code none
    language.lexicon.resumes_code]
  rfl

/-- A comment across a line break, an empty one behind it, and one at the end of the line. -/
theorem tight_comments_blank :
    (∀ comments ∈ Language.java.comments "/*\n \t*/ /**/ f(); // ".toList,
      comments ≠ [] ∧ CommentPart.AllEmpty comments ∧ CommentPart.Tight comments) ∧
    ∃ source, ofText? Language.java.regions (Language.java.recognizer 0.9)
        "/*\n \t*/ /**/ f(); // ".toList = some source ∧
      ∀ line ∈ source.lines, line.comment? = some .blank := by
  have tight : ∀ comments ∈ Language.java.comments "/*\n \t*/ /**/ f(); // ".toList,
      comments ≠ [] ∧ CommentPart.AllEmpty comments ∧ CommentPart.Tight comments := by
    decide +kernel
  obtain ⟨source, classified, shows, _⟩ := empty_comments_blank_iff_tight Language.java
    (Language.java.recognizer 0.9) "/*\n \t*/ /**/ f(); // ".toList
  refine ⟨tight, source, classified, ?_⟩
  intro line found
  obtain ⟨same, each⟩ := List.forall₂_iff_get.1 shows
  obtain ⟨place, rfl⟩ := List.mem_iff_get.1 found
  have bound := Nat.lt_of_lt_of_eq place.isLt same
  obtain ⟨nonempty, empty, apart⟩ := tight _ (List.get_mem _ ⟨place, bound⟩)
  exact ((each place place.isLt bound).blank nonempty empty).2 apart

/-- White space between the first two markers of a line keeps the others from being taken off. -/
theorem two_empty_comments_not_blank :
    (∀ comments ∈ Language.c.comments "/* */ /* */".toList,
      comments ≠ [] ∧ CommentPart.AllEmpty comments) ∧
    ∃ line, ofText? Language.c.regions (Language.c.recognizer 0.9) "/* */ /* */".toList =
        some ⟨[line]⟩ ∧ line.comment?.isSome ∧ line.comment? ≠ some .blank := by
  have drafts : drafts? Language.c.regions "/* */ /* */".toList =
      some [⟨1, [' '], [' '], some "*//*".toList⟩] := by decide +kernel
  refine ⟨by decide +kernel, _, by rw [ofText?_eq_judged, drafts]; rfl, rfl, ?_⟩
  rw [Ne, LineDraft.comment?_eq_blank_iff]
  decide

end Source

end CodeMetrics
