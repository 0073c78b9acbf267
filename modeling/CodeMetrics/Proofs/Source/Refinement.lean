import CodeMetrics.Proofs.Source.Progress

/-!
The classifier of lines agrees with the plain lexer. The classifier finds a marker only when its last
character arrives, looking back at a text from which comments are already gone, and then takes the
marker out again. The invariant is that this text never ends with a slash that is still waiting: such
a slash is followed by neither a slash nor a star. So no marker is ever put together across a
comment.
-/

namespace CodeMetrics

/-- How a line's progress answers to a state of the lexer, with the rest of the line still to come.
A slash at the end of the text outside of comments must not be waiting for what comes next, and a
comment must not be waiting for the slash that closes it. -/
def Lexicon.Follows (lexicon : Lexicon) (state : LexState) (progress : LineProgress)
    (rest : List Char) : Prop :=
  match state with
  | .code => progress.open? = none ∧ (lexicon.slashes = true →
      progress.outside.head? = some '/' → rest.head? ≠ some '/' ∧ rest.head? ≠ some '*')
  | .lineComment => progress.touchesComment = true ∧
      ∃ start recent, progress.open? = some ⟨.lineComment start, recent⟩
  | .blockComment => progress.touchesComment = true ∧ progress.outside.head? ≠ some '/' ∧
      ∃ recent, progress.open? = some ⟨.blockComment ['/', '*'] ['*', '/'], recent⟩ ∧
        2 ≤ Text.byteSize recent ∧
        (recent.head? = some '*' → 2 < Text.byteSize recent → rest.head? ≠ some '/')
  | .literal delimiter backslashes => (delimiter = '"' ∨ delimiter = '\'') ∧
      ∃ recent, progress.open? = some ⟨.literal [delimiter], recent⟩ ∧
        1 ≤ Text.byteSize recent ∧ (recent.takeWhile (· == '\\')).length = backslashes

/-- The classifier consumes characters with the roles that the lexer gives them, and then stands
where the lexer does, with the rest of the line still to come. -/
def Lexicon.Consumes (lexicon : Lexicon) (progress : LineProgress) (line : List (Char × CharRole))
    (state : LexState) (rest : List Char) : Prop :=
  ∃ open?, (line.map Prod.fst).foldlM (LineProgress.consume? lexicon.regions) progress =
      some (progress.extend line open?) ∧
    lexicon.Follows state (progress.extend line open?) rest

namespace Lexicon

variable {lexicon : Lexicon} {state : LexState} {progress : LineProgress} {c next : Char}
  {rest : List Char}

theorem Consumes.one {role : CharRole} {open? : Option OpenRegion}
    (consumed : progress.consume? lexicon.regions c = some (progress.extend [(c, role)] open?))
    (follows : lexicon.Follows state (progress.extend [(c, role)] open?) rest) :
    lexicon.Consumes progress [(c, role)] state rest := by
  refine ⟨open?, ?_, follows⟩
  rw [List.map_singleton, List.foldlM_cons, consumed]
  rfl

theorem Consumes.append {line more : List (Char × CharRole)} {last : LexState} {later : List Char}
    (first : lexicon.Consumes progress line state rest)
    (second : ∀ middle, lexicon.Follows state middle rest →
      lexicon.Consumes middle more last later) :
    lexicon.Consumes progress (line ++ more) last later := by
  obtain ⟨middle, consumed, follows⟩ := first
  obtain ⟨open?, remaining, follows⟩ := second _ follows
  rw [LineProgress.extend_extend] at remaining follows
  refine ⟨open?, ?_, follows⟩
  rw [List.map_append, List.foldlM_append, consumed]
  exact remaining

theorem step_code_alone (alone : (lexicon.step .code c rest.head?).takesNext = false) :
    lexicon.step .code c rest.head? =
      (if lexicon.hash ∧ c = '#' then ⟨.comment, .lineComment, false⟩
      else if c ∈ lexicon.delimiters then ⟨.literal, .literal c 0, false⟩
      else ⟨.code, .code, false⟩) ∧
    (lexicon.slashes = true → c = '/' → rest.head? ≠ some '/' ∧ rest.head? ≠ some '*') := by
  unfold step at alone ⊢
  by_cases line : lexicon.slashes ∧ c = '/' ∧ rest.head? = some '/'
  · simp [line] at alone
  · by_cases block : lexicon.slashes ∧ c = '/' ∧ rest.head? = some '*'
    · simp [block] at alone
    · refine ⟨by simp only [if_neg line, if_neg block], fun slashes slash => ⟨?_, ?_⟩⟩
      · exact fun same => line ⟨slashes, slash, same⟩
      · exact fun same => block ⟨slashes, slash, same⟩

/-- In code, no marker of two characters is completed: its first character would have waited. -/
theorem Follows.find?_alone (follows : lexicon.Follows .code progress (c :: rest)) :
    (lexicon.regions.find? fun region => region.opensAfter (c :: progress.outside)) =
      if lexicon.hash ∧ c = '#' then some (.lineComment ['#'])
      else if c ∈ lexicon.delimiters then some (.literal [c])
      else none := by
  have line : ¬(lexicon.slashes ∧ c = '/' ∧ progress.outside.head? = some '/') := by
    rintro ⟨slashes, rfl, waiting⟩
    exact (follows.2 slashes waiting).1 rfl
  have block : ¬(lexicon.slashes ∧ c = '*' ∧ progress.outside.head? = some '/') := by
    rintro ⟨slashes, rfl, waiting⟩
    exact (follows.2 slashes waiting).2 rfl
  rw [find?_regions, if_neg line, if_neg block]

theorem Follows.code_alone (follows : lexicon.Follows .code progress (c :: rest))
    (quotes : ∀ d ∈ lexicon.delimiters, d = '"' ∨ d = '\'')
    (alone : (lexicon.step .code c rest.head?).takesNext = false) :
    let first := lexicon.step .code c rest.head?
    lexicon.Consumes progress [(c, first.role)] first.state rest := by
  obtain ⟨stepEq, waits⟩ := step_code_alone alone
  have opening := follows.find?_alone
  rw [stepEq]
  by_cases hash : lexicon.hash ∧ c = '#'
  · simp only [if_pos hash] at opening ⊢
    obtain ⟨_, rfl⟩ := hash
    exact .one (LineProgress.consume?_hash follows.1 opening)
      ⟨by simp [LineProgress.extend, charsOf], _, _, rfl⟩
  · by_cases quoted : c ∈ lexicon.delimiters
    · simp only [if_neg hash, if_pos quoted] at opening ⊢
      have quote := quotes c quoted
      refine .one (LineProgress.consume?_quote follows.1 opening) ⟨quote, _, rfl, ?_, ?_⟩
      · rw [byteSize_cons]
        exact Nat.le_add_right_of_le c.utf8Size_pos
      · rcases quote with rfl | rfl <;> rfl
    · simp only [if_neg hash, if_neg quoted] at opening ⊢
      refine .one (LineProgress.consume?_code c follows.1 opening) ⟨rfl, ?_⟩
      intro slashes isSlash
      exact waits slashes (by simpa [LineProgress.extend, charsOf] using isSlash)

theorem Follows.lineComment_alone (follows : lexicon.Follows .lineComment progress (c :: rest)) :
    lexicon.Consumes progress [(c, .comment)] .lineComment rest := by
  obtain ⟨touched, start, recent, inside⟩ := follows
  exact .one (LineProgress.consume?_comment c inside rfl touched)
    ⟨by simp [LineProgress.extend, touched], start, c :: recent, rfl⟩

theorem Follows.blockComment_alone
    (follows : lexicon.Follows .blockComment progress (c :: rest))
    (alone : ¬(c = '*' ∧ rest.head? = some '/')) :
    lexicon.Consumes progress [(c, .comment)] .blockComment rest := by
  obtain ⟨touched, noSlash, recent, inside, opened, waits⟩ := follows
  have stays : (Region.blockComment ['/', '*'] ['*', '/']).closesAfter (c :: recent) = false := by
    rw [closesAfter_block, decide_eq_false_iff_not]
    rintro ⟨rfl, star, room⟩
    -- A star that is not the opening one would have been read together with this slash.
    refine waits star ?_ rfl
    have slash : Text.byteSize ('/' :: recent) = 1 + Text.byteSize recent := byteSize_cons _ _
    omega
  have consumed : progress.consume? lexicon.regions c = some _ :=
    LineProgress.consume?_comment c inside rfl touched
  simp only [stays, Bool.false_eq_true, if_false] at consumed
  refine .one consumed ⟨by simp [LineProgress.extend, touched],
    by simpa [LineProgress.extend, charsOf] using noSlash, c :: recent, rfl, ?_, ?_⟩
  · rw [byteSize_cons]
    omega
  · intro star _ slash
    exact alone ⟨by simpa using star, slash⟩

theorem Follows.literal_alone {delimiter : Char} {backslashes : Nat}
    (follows : lexicon.Follows (.literal delimiter backslashes) progress (c :: rest)) :
    let first := lexicon.step (.literal delimiter backslashes) c rest.head?
    lexicon.Consumes progress [(c, first.role)] first.state rest := by
  obtain ⟨quote, recent, inside, opened, count⟩ := follows
  have consumed : progress.consume? lexicon.regions c = some _ :=
    LineProgress.consume?_literal c inside rfl
  rw [closesAfter_literal quote c recent opened, count] at consumed
  by_cases closes : c = delimiter ∧ backslashes % 2 = 0
  · simp only [step, if_pos closes]
    simp only [closes, and_self, decide_true, if_true] at consumed ⊢
    refine .one consumed ⟨rfl, ?_⟩
    -- A quote is no slash, so nothing waits after the literal.
    intro _ slash
    rcases quote with rfl | rfl <;> simp [LineProgress.extend, charsOf] at slash
  · simp only [step, if_neg closes]
    simp only [closes, decide_false, Bool.false_eq_true, if_false] at consumed
    refine .one consumed ⟨quote, c :: recent, rfl, ?_, ?_⟩
    · rw [byteSize_cons]
      omega
    · by_cases escape : c = '\\'
      · simp [escape, count]
      · simp [escape]

/-- A character that the lexer reads alone. -/
theorem Follows.alone (follows : lexicon.Follows state progress (c :: rest))
    (quotes : ∀ d ∈ lexicon.delimiters, d = '"' ∨ d = '\'')
    (alone : (lexicon.step state c rest.head?).takesNext = false) :
    let first := lexicon.step state c rest.head?
    lexicon.Consumes progress [(c, first.role)] first.state rest := by
  cases state with
  | code => exact follows.code_alone quotes alone
  | lineComment => exact follows.lineComment_alone
  | blockComment =>
    have inside : ¬(c = '*' ∧ rest.head? = some '/') := by
      intro closing
      simp [step, closing] at alone
    simp only [step, if_neg inside]
    exact follows.blockComment_alone inside
  | literal delimiter backslashes => exact follows.literal_alone

theorem Follows.find?_slash (follows : lexicon.Follows .code progress ('/' :: rest))
    (quotes : ∀ d ∈ lexicon.delimiters, d = '"' ∨ d = '\'') :
    (lexicon.regions.find? fun region => region.opensAfter ('/' :: progress.outside)) = none := by
  have noQuote : '/' ∉ lexicon.delimiters := by
    intro quoted
    have quote := quotes '/' quoted
    revert quote
    decide
  rw [follows.find?_alone, if_neg (by simp), if_neg noQuote]

/-- Nothing stands before a marker that could be glued to it. -/
theorem Follows.slash_not_waiting (follows : lexicon.Follows .code progress ('/' :: rest))
    (slashes : lexicon.slashes = true) : progress.outside.head? ≠ some '/' :=
  fun waiting => (follows.2 slashes waiting).1 rfl

theorem Follows.opening_pair (follows : lexicon.Follows .code progress ('/' :: next :: rest))
    (quotes : ∀ d ∈ lexicon.delimiters, d = '"' ∨ d = '\'') (slashes : lexicon.slashes = true)
    (isMarker : next = '/' ∨ next = '*') :
    lexicon.Consumes progress [('/', .comment), (next, .comment)]
      (if next = '/' then .lineComment else .blockComment) rest := by
  have unopened := follows.find?_slash quotes
  rcases isMarker with rfl | rfl
  · have opened := lexicon.find?_regions '/' ('/' :: progress.outside)
    rw [if_pos ⟨slashes, rfl, rfl⟩] at opened
    exact ⟨_, LineProgress.consume?_slash follows.1 (.inl ⟨rfl, rfl⟩) unopened opened,
      by simp [LineProgress.extend, charsOf], _, _, rfl⟩
  · have opened := lexicon.find?_regions '*' ('/' :: progress.outside)
    rw [if_neg (by simp), if_pos ⟨slashes, rfl, rfl⟩] at opened
    refine ⟨_, LineProgress.consume?_slash follows.1 (.inr ⟨rfl, rfl⟩) unopened opened,
      by simp [LineProgress.extend, charsOf],
      by simpa [LineProgress.extend, charsOf] using follows.slash_not_waiting slashes,
      _, rfl, by decide, ?_⟩
    intro _ room
    exact absurd room (by decide)

theorem Follows.closing_pair
    (follows : lexicon.Follows .blockComment progress ('*' :: '/' :: rest)) :
    lexicon.Consumes progress [('*', .comment), ('/', .comment)] .code rest := by
  obtain ⟨touched, noSlash, recent, inside, opened, _⟩ := follows
  have stays : (Region.blockComment ['/', '*'] ['*', '/']).closesAfter ('*' :: recent) = false := by
    simp [closesAfter_block]
  have closes :
      (Region.blockComment ['/', '*'] ['*', '/']).closesAfter ('/' :: '*' :: recent) = true := by
    have star : Text.byteSize ('*' :: recent) = 1 + Text.byteSize recent := byteSize_cons _ _
    have slash : Text.byteSize ('/' :: '*' :: recent) = 1 + Text.byteSize ('*' :: recent) :=
      byteSize_cons _ _
    rw [closesAfter_block, decide_eq_true_iff]
    exact ⟨rfl, rfl, by omega⟩
  have first : progress.consume? lexicon.regions '*' = some _ :=
    LineProgress.consume?_comment '*' inside rfl touched
  simp only [stays, Bool.false_eq_true, if_false] at first
  have second : (progress.extend [('*', .comment)]
        (some ⟨.blockComment ['/', '*'] ['*', '/'], '*' :: recent⟩)).consume? lexicon.regions '/' =
      some _ :=
    LineProgress.consume?_comment '/' rfl rfl (by simp [LineProgress.extend, touched])
  simp only [closes, if_true, LineProgress.extend_extend] at second
  refine ⟨none, ?_, rfl, ?_⟩
  · simp only [List.map_cons, List.map_nil, List.foldlM_cons, List.foldlM_nil, first, second, bind,
      Option.bind_some, pure, List.cons_append, List.nil_append]
  · intro _ slash
    exact absurd slash (by simpa [LineProgress.extend, charsOf] using noSlash)

/-- Two characters that the lexer reads as one marker. -/
theorem Follows.pair (follows : lexicon.Follows state progress (c :: next :: rest))
    (quotes : ∀ d ∈ lexicon.delimiters, d = '"' ∨ d = '\'')
    (paired : (lexicon.step state c (some next)).takesNext = true) :
    let first := lexicon.step state c (some next)
    lexicon.Consumes progress [(c, first.role), (next, first.role)] first.state rest := by
  cases state with
  | code =>
    by_cases line : lexicon.slashes ∧ c = '/' ∧ next = '/'
    · obtain ⟨slashes, rfl, rfl⟩ := line
      simpa [step, slashes] using follows.opening_pair quotes slashes (.inl rfl)
    · by_cases block : lexicon.slashes ∧ c = '/' ∧ next = '*'
      · obtain ⟨slashes, rfl, rfl⟩ := block
        simpa [step, slashes] using follows.opening_pair quotes slashes (.inr rfl)
      · simp only [step, Option.some.injEq, if_neg line, if_neg block] at paired
        split at paired
        · exact absurd paired Bool.false_ne_true
        · split at paired <;> exact absurd paired Bool.false_ne_true
  | lineComment => exact absurd paired (by simp [step])
  | blockComment =>
    by_cases closing : c = '*' ∧ next = '/'
    · obtain ⟨rfl, rfl⟩ := closing
      simpa [step] using follows.closing_pair
    · simp [step, closing] at paired
  | literal delimiter backslashes =>
    simp only [step] at paired
    split at paired <;> exact absurd paired Bool.false_ne_true

/-- The classifier consumes a line as the lexer reads it. -/
theorem Follows.read (quotes : ∀ d ∈ lexicon.delimiters, d = '"' ∨ d = '\'')
    (state : LexState) (text : List Char) (progress : LineProgress)
    (follows : lexicon.Follows state progress text) :
    lexicon.Consumes progress (lexicon.read state text).1 (lexicon.read state text).2 [] := by
  fun_induction Lexicon.read lexicon state text generalizing progress with
  | case1 state =>
    exact ⟨progress.open?, by rw [LineProgress.extend_nil]; rfl,
      by rwa [LineProgress.extend_nil]⟩
  | case2 state c first => exact follows.alone quotes (lexicon.step_last state c)
  | case3 state c next rest first paired others last readRest ih =>
    rw [readRest] at ih
    exact (follows.pair quotes paired).append ih
  | case4 state c next rest first alone others last readRest ih =>
    rw [readRest] at ih
    exact (follows.alone quotes (by simpa using alone)).append ih

/-- The lexer gives every character of a line a role, in order. -/
theorem map_fst_read (lexicon : Lexicon) (state : LexState) (text : List Char) :
    (lexicon.read state text).1.map Prod.fst = text := by
  fun_induction Lexicon.read lexicon state text with
  | case1 state => rfl
  | case2 state c first => rfl
  | case3 state c next rest first paired others last readRest ih =>
    rw [readRest] at ih
    simp [ih]
  | case4 state c next rest first alone others last readRest ih =>
    rw [readRest] at ih
    simp [ih]

/-! From one line to the next. -/

/-- How the region that is open at the start of a line answers to the state of the lexer there. -/
structure Resumes (lexicon : Lexicon) (state : LexState) (open? : Option OpenRegion) : Prop where
  follows : ∀ text, lexicon.Follows state (.start open?) text
  touches : (LineProgress.start open?).touchesComment = decide (state = .blockComment)

theorem resumes_code (lexicon : Lexicon) : lexicon.Resumes .code none where
  follows _ := ⟨rfl, fun _ slash => by simp [LineProgress.start] at slash⟩
  touches := rfl

theorem resumes_closed (lexicon : Lexicon) (closed : progress.openAfter = none) :
    lexicon.Resumes .code progress.openAfter := by
  rw [closed]
  exact lexicon.resumes_code

theorem Follows.resumes (follows : lexicon.Follows state progress []) :
    lexicon.Resumes state.afterBreak progress.openAfter := by
  cases state with
  | code =>
    apply resumes_closed
    simp [LineProgress.openAfter, follows.1]
  | lineComment =>
    obtain ⟨_, start, recent, inside⟩ := follows
    apply resumes_closed
    simp [LineProgress.openAfter, inside, Region.closesAtLineEnd]
  | blockComment =>
    obtain ⟨_, _, recent, inside, opened, _⟩ := follows
    have stays : progress.openAfter =
        some ⟨.blockComment ['/', '*'] ['*', '/'], '\n' :: recent⟩ := by
      simp [LineProgress.openAfter, inside, Region.closesAtLineEnd]
    rw [stays]
    refine ⟨fun text => ⟨rfl, by simp [LineProgress.start], _, rfl, ?_, ?_⟩, rfl⟩
    · rw [byteSize_cons]
      omega
    · -- The line break stands between a star before it and a slash after it.
      intro star
      simp at star
  | literal delimiter backslashes =>
    obtain ⟨_, recent, inside, _⟩ := follows
    apply resumes_closed
    simp [LineProgress.openAfter, inside, Region.closesAtLineEnd]

theorem Resumes.finish {open? : Option OpenRegion} (resumes : lexicon.Resumes state open?)
    (regions : List Region) (recognizer : Recognizer) (number : Nat)
    (line : List (Char × CharRole)) (last : Option OpenRegion) :
    ((LineProgress.start open?).extend line last).finish regions recognizer number =
      lexedLine regions recognizer number state line := by
  have touched : ((LineProgress.start open?).extend line last).touchesComment =
      decide (state = .blockComment ∨ charsOf [.comment] line ≠ []) := by
    simp only [LineProgress.extend, resumes.touches, Bool.decide_or]
    cases charsOf [.comment] line <;> simp
  simp only [LineProgress.finish, touched, decide_eq_true_eq, lexedLine]
  simp [LineProgress.extend, LineProgress.start]

end Lexicon

theorem classifyLines?_eq_lexedLines (language : Language) (recognizer : Recognizer)
    (texts : List (List Char)) (number : Nat) (state : LexState) (open? : Option OpenRegion)
    (resumes : language.lexicon.Resumes state open?) :
    classifyLines? language.regions recognizer number open? texts =
      some (language.lexedLines recognizer number state texts) := by
  induction texts generalizing number state open? with
  | nil => rfl
  | cons text others ih =>
    obtain ⟨last, consumed, follows⟩ :=
      Lexicon.Follows.read language.delimiters_quotes state text _ (resumes.follows text)
    rw [language.lexicon.map_fst_read, language.regions_lexicon] at consumed
    simp only [classifyLines?, consumed, ih _ _ _ follows.resumes, resumes.finish, bind,
      Option.bind_some, pure, Language.lexedLines]

theorem Language.hasCode_lexedLines (language : Language) (recognizer : Recognizer)
    (texts : List (List Char)) (number : Nat) (state : LexState) :
    ∀ line ∈ language.lexedLines recognizer number state texts,
      line.hasCode = true ↔ ∃ c ∈ line.code, Text.isBlank c = false := by
  induction texts generalizing number state with
  | nil => simp [Language.lexedLines]
  | cons text others ih =>
    intro line found
    rcases List.mem_cons.1 found with rfl | later
    · simp [lexedLine, List.any_eq_true]
    · exact ih _ _ line later

/-- Classifying a text never fails for the regions of a language, and splits every line as the plain
lexer does. -/
theorem Source.ofText?_refines_lexer (language : Language) (recognizer : Recognizer)
    (text : List Char) :
    Source.ofText? language.regions recognizer text =
        some ⟨language.lexedLines recognizer 0 .code (Text.lines text)⟩ ∧
      (∀ line ∈ language.lexedLines recognizer 0 .code (Text.lines text),
        line.hasCode = true ↔ ∃ c ∈ line.code, Text.isBlank c = false) ∧
      ∀ (state : LexState) (line : List Char),
        (language.lexicon.read state line).1.map Prod.fst = line := by
  refine ⟨?_, language.hasCode_lexedLines recognizer _ _ _, language.lexicon.map_fst_read⟩
  rw [Source.ofText?, classifyLines?_eq_lexedLines language recognizer _ _ .code none
    language.lexicon.resumes_code, Option.map_some]

end CodeMetrics
