import CodeMetrics.Proofs.Source.Progress

/-!
The comments of a line, one by one. The lexer says which characters belong to comments, but two
comments may stand side by side; here each of them has its own markers and content, as far as these
stand on the line. All but the last comment of a line are closed on it, and all but the first one
are opened on it.
-/

namespace CodeMetrics

/-- What a line holds of one comment. A marker that stands on another line is left out. -/
structure CommentPart where
  opening : List Char := []
  content : List Char := []
  closing : List Char := []
  deriving DecidableEq, Repr

namespace CommentPart

def text (part : CommentPart) : List Char :=
  part.opening ++ (part.content ++ part.closing)

/-- The comments of a line with more characters at its front, by whether these are read inside of a
comment and whether what follows them is. They are no part of a comment, they open the first one, go
on with it, or close another one before it. -/
def put (inside after : Bool) (chars : List Char) (parts : List CommentPart) : List CommentPart :=
  match inside, after with
  | false, false => parts
  | false, true => parts.modifyHead fun part => { part with opening := chars }
  | true, true => parts.modifyHead fun part => { part with content := chars ++ part.content }
  | true, false => { closing := chars } :: parts

end CommentPart

def LexState.inComment : LexState → Bool
  | .lineComment | .blockComment => true
  | .code | .literal _ _ => false

def Lexicon.comments (lexicon : Lexicon) : LexState → List Char → List CommentPart
  | state, [] => if state.inComment then [{}] else []
  | state, [c] =>
    let first := lexicon.step state c none
    CommentPart.put state.inComment first.state.inComment [c] (lexicon.comments first.state [])
  | state, c :: next :: rest =>
    let first := lexicon.step state c (some next)
    if first.takesNext then
      CommentPart.put state.inComment first.state.inComment [c, next]
        (lexicon.comments first.state rest)
    else
      CommentPart.put state.inComment first.state.inComment [c]
        (lexicon.comments first.state (next :: rest))

namespace Language

def lineComments (language : Language) : LexState → List (List Char) → List (List CommentPart)
  | _, [] => []
  | state, text :: others =>
    language.lexicon.comments state text ::
      language.lineComments (language.lexicon.read state text).2.afterBreak others

def comments (language : Language) (text : List Char) : List (List CommentPart) :=
  language.lineComments .code (Text.lines text)

end Language

/-! What the lexer reads at once. -/

namespace Lexicon

def openings (lexicon : Lexicon) : List (List Char) :=
  (if lexicon.slashes then [['/', '/'], ['/', '*']] else []) ++
    if lexicon.hash then [['#']] else []

theorem of_mem_openings {lexicon : Lexicon} {marker : List Char}
    (known : marker ∈ lexicon.openings) :
    marker = ['/', '/'] ∨ marker = ['/', '*'] ∨ marker = ['#'] := by
  rcases List.mem_append.1 known with known | known
  · split at known
    · rcases List.mem_pair.1 known with line | block
      · exact .inl line
      · exact .inr (.inl block)
    · cases known
  · split at known
    · exact .inr (.inr (List.mem_singleton.1 known))
    · cases known

theorem ne_nil_of_mem_openings {lexicon : Lexicon} {marker : List Char}
    (known : marker ∈ lexicon.openings) : marker ≠ [] := by
  rcases of_mem_openings known with rfl | rfl | rfl <;> exact List.cons_ne_nil _ _

/-- What characters that are read at once do, by whether they are read inside of a comment and
whether what follows them is. -/
def Moves (lexicon : Lexicon) (inside after : Bool) (chars : List Char) (role : CharRole) : Prop :=
  match inside, after with
  | false, false => role ≠ .comment
  | false, true => role = .comment ∧ chars ∈ lexicon.openings
  | true, true => role = .comment
  | true, false => role = .comment ∧ lexicon.slashes = true ∧ chars = ['*', '/']

def Allows (lexicon : Lexicon) (state : LexState) : Prop :=
  state = .blockComment → lexicon.slashes = true

variable (lexicon : Lexicon) {state : LexState} (c : Char)

theorem allows_step (allowed : lexicon.Allows state) (next? : Option Char) :
    lexicon.Allows (lexicon.step state c next?).state := by
  intro block
  cases state with
  | code =>
    simp only [step] at block
    split at block
    · cases block
    · split at block
      next slashes => exact slashes.1
      next =>
        split at block
        · cases block
        · split at block <;> cases block
  | lineComment => cases block
  | blockComment => exact allowed rfl
  | literal delimiter backslashes =>
    simp only [step] at block
    split at block <;> cases block

theorem moves_alone (state : LexState) (next? : Option Char)
    (alone : ¬(lexicon.step state c next?).takesNext = true) :
    lexicon.Moves state.inComment (lexicon.step state c next?).state.inComment [c]
      (lexicon.step state c next?).role := by
  cases state with
  | code =>
    simp only [step] at alone ⊢
    split
    next line => exact absurd (by simp [line]) alone
    next line =>
      split
      next block => exact absurd (by simp [block]) alone
      next =>
        split
        next hash =>
          obtain ⟨hashed, rfl⟩ := hash
          exact ⟨rfl, by simp [openings, hashed]⟩
        next => split <;> simp [Moves, LexState.inComment]
  | lineComment => rfl
  | blockComment =>
    simp only [step] at alone ⊢
    split
    next closes => exact absurd (by simp [closes]) alone
    next => rfl
  | literal delimiter backslashes =>
    simp only [step]
    split <;> simp [Moves, LexState.inComment]

theorem moves_paired (allowed : lexicon.Allows state) (next : Char)
    (paired : (lexicon.step state c (some next)).takesNext = true) :
    lexicon.Moves state.inComment (lexicon.step state c (some next)).state.inComment [c, next]
      (lexicon.step state c (some next)).role := by
  cases state with
  | code =>
    simp only [step] at paired ⊢
    split
    next line =>
      obtain ⟨slashes, rfl, slash⟩ := line
      cases slash
      exact ⟨rfl, by simp [openings, slashes]⟩
    next line =>
      rw [if_neg line] at paired
      split
      next block =>
        obtain ⟨slashes, rfl, star⟩ := block
        cases star
        exact ⟨rfl, by simp [openings, slashes]⟩
      next block =>
        rw [if_neg block] at paired
        split at paired
        · cases paired
        · split at paired <;> cases paired
  | lineComment => cases paired
  | blockComment =>
    simp only [step] at paired ⊢
    split
    next closes =>
      obtain ⟨rfl, slash⟩ := closes
      cases slash
      exact ⟨rfl, allowed rfl, rfl⟩
    next stays =>
      rw [if_neg stays] at paired
      cases paired
  | literal delimiter backslashes =>
    simp only [step] at paired
    split at paired <;> cases paired

/-! How the comments of a line follow each other. -/

/-- Comments as they stand on a line, or on the rest of one that begins inside of a comment. All but
the last one are closed, and only the first one may have been opened before. -/
def Laid (lexicon : Lexicon) : Bool → List CommentPart → Prop
  | inside, [] => inside = false
  | inside, part :: others =>
    (if inside then part.opening = [] else part.opening ∈ lexicon.openings) ∧
      (part.closing = [] ∧ others = [] ∨
        part.closing = ['*', '/'] ∧ lexicon.slashes = true ∧ lexicon.Laid false others)

variable {lexicon} {inside after : Bool} {chars : List Char} {role : CharRole}
  {parts : List CommentPart}

/-- A comment that another one follows is closed. -/
theorem Laid.of_cons_cons {part next : CommentPart} {rest : List CommentPart}
    (laid : lexicon.Laid inside (part :: next :: rest)) :
    part.closing = ['*', '/'] ∧ lexicon.slashes = true ∧ lexicon.Laid false (next :: rest) := by
  rcases laid.2 with ⟨_, nothing⟩ | closed
  · cases nothing
  · exact closed

theorem Moves.laid_put (moves : lexicon.Moves inside after chars role)
    (laid : lexicon.Laid after parts) :
    lexicon.Laid inside (CommentPart.put inside after chars parts) := by
  match inside, after with
  | false, false => exact laid
  | true, false => exact ⟨rfl, .inr ⟨moves.2.2, moves.2.1, laid⟩⟩
  | false, true =>
    cases parts with
    | nil => cases laid
    | cons part others => exact ⟨moves.2, laid.2⟩
  | true, true =>
    cases parts with
    | nil => cases laid
    | cons part others => exact laid

theorem Moves.text_put (moves : lexicon.Moves inside after chars role)
    (laid : lexicon.Laid after parts) :
    (CommentPart.put inside after chars parts).flatMap CommentPart.text =
      (if role = .comment then chars else []) ++ parts.flatMap CommentPart.text := by
  match inside, after with
  | false, false =>
    rw [if_neg moves]
    rfl
  | true, false =>
    rw [if_pos moves.1]
    rfl
  | false, true =>
    cases parts with
    | nil => cases laid
    | cons part others =>
      have unopened : part.opening = [] := laid.1
      simp [CommentPart.put, CommentPart.text, moves.1, unopened]
  | true, true =>
    cases parts with
    | nil => cases laid
    | cons part others =>
      have unopened : part.opening = [] := laid.1
      have comment : role = .comment := moves
      simp [CommentPart.put, CommentPart.text, comment, unopened]

theorem laid_comments (allowed : lexicon.Allows state) (text : List Char) :
    lexicon.Laid state.inComment (lexicon.comments state text) := by
  fun_induction Lexicon.comments lexicon state text with
  | case1 state inside =>
    rw [inside]
    exact ⟨rfl, .inl ⟨rfl, rfl⟩⟩
  | case2 state outside => exact eq_false_of_ne_true outside
  | case3 state c first ih =>
    have moves := lexicon.moves_alone c state none
      (Bool.eq_false_iff.mp (lexicon.step_last state c))
    exact moves.laid_put (ih (lexicon.allows_step c allowed none))
  | case4 state c next rest first paired ih =>
    have moves := lexicon.moves_paired c allowed next paired
    exact moves.laid_put (ih (lexicon.allows_step c allowed (some next)))
  | case5 state c next rest first alone ih =>
    have moves := lexicon.moves_alone c state (some next) alone
    exact moves.laid_put (ih (lexicon.allows_step c allowed (some next)))

/-- Joined together, the comments are what the lexer takes for comments. -/
theorem text_comments (allowed : lexicon.Allows state) (text : List Char) :
    (lexicon.comments state text).flatMap CommentPart.text =
      charsOf [.comment] (lexicon.read state text).1 := by
  fun_induction Lexicon.comments lexicon state text with
  | case1 state inside => rfl
  | case2 state outside => rfl
  | case3 state c first ih =>
    have moves := lexicon.moves_alone c state none
      (Bool.eq_false_iff.mp (lexicon.step_last state c))
    have allowed := lexicon.allows_step c allowed none
    rw [moves.text_put (laid_comments allowed []), ih allowed]
    exact (charsOf_singleton_cons .comment c _ []).symm
  | case4 state c next rest first paired ih =>
    have moves := lexicon.moves_paired c allowed next paired
    have allowed := lexicon.allows_step c allowed (some next)
    rw [moves.text_put (laid_comments allowed rest), ih allowed, read, if_pos paired,
      charsOf_singleton_cons, charsOf_singleton_cons]
    split <;> rfl
  | case5 state c next rest first alone ih =>
    have moves := lexicon.moves_alone c state (some next) alone
    have allowed := lexicon.allows_step c allowed (some next)
    rw [moves.text_put (laid_comments allowed (next :: rest)), ih allowed, read, if_neg alone,
      charsOf_singleton_cons]

/-! From one line to the next. -/

theorem allows_read (allowed : lexicon.Allows state) (text : List Char) :
    lexicon.Allows (lexicon.read state text).2 := by
  fun_induction Lexicon.read lexicon state text with
  | case1 state => exact allowed
  | case2 state c first => exact lexicon.allows_step c allowed none
  | case3 state c next rest first paired others last readRest ih =>
    rw [readRest] at ih
    exact ih (lexicon.allows_step c allowed (some next))
  | case4 state c next rest first alone others last readRest ih =>
    rw [readRest] at ih
    exact ih (lexicon.allows_step c allowed (some next))

theorem allows_afterBreak (allowed : lexicon.Allows state) : lexicon.Allows state.afterBreak := by
  cases state with
  | blockComment => exact allowed
  | code | lineComment | literal => exact fun block => by cases block

/-- A comment reaches into a line just when the line has a comment. -/
theorem Laid.reaches_iff (laid : lexicon.Laid inside parts) :
    (inside = true ∨ parts.flatMap CommentPart.text ≠ []) ↔ parts ≠ [] := by
  match inside, parts with
  | false, [] => simp
  | true, [] => cases laid
  | true, part :: others => simp
  | false, part :: others =>
    have opened := ne_nil_of_mem_openings laid.1
    simp [CommentPart.text, opened]

end Lexicon

theorem LexState.inComment_iff {state : LexState}
    (begins : state = .code ∨ state = .blockComment) :
    state.inComment = true ↔ state = .blockComment := by
  rcases begins with rfl | rfl <;> simp [inComment]

theorem LexState.afterBreak_cases (state : LexState) :
    state.afterBreak = .code ∨ state.afterBreak = .blockComment := by
  cases state <;> simp [afterBreak]

end CodeMetrics
