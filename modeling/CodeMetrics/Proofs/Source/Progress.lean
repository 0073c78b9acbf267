import CodeMetrics.Proofs.Source.Lexer

/-!
What one character does to the progress of a line, in the lexer's words: each lemma says which
region opens or closes, and extends the line by the character with its role.
-/

namespace CodeMetrics

def Lexicon.regions (lexicon : Lexicon) : List Region :=
  (if lexicon.slashes then [.lineComment ['/', '/'], .blockComment ['/', '*'] ['*', '/']] else []) ++
    (if lexicon.hash then [.lineComment ['#']] else []) ++
    lexicon.delimiters.map fun delimiter => .literal [delimiter]

theorem Language.regions_lexicon (language : Language) :
    language.lexicon.regions = language.regions := by
  cases language <;> rfl

theorem Language.delimiters_quotes (language : Language) :
    ∀ d ∈ language.lexicon.delimiters, d = '"' ∨ d = '\'' := by
  cases language <;> simp [Language.lexicon]

/-! What a line has so far, extended by what the lexer says of the next characters. -/

theorem charsOf_append (roles : List CharRole) (first second : List (Char × CharRole)) :
    charsOf roles (first ++ second) = charsOf roles first ++ charsOf roles second := by
  simp only [charsOf, List.filter_append, List.map_append]

theorem charsOf_singleton_cons (kind : CharRole) (c : Char) (role : CharRole)
    (line : List (Char × CharRole)) :
    charsOf [kind] ((c, role) :: line) =
      (if role = kind then [c] else []) ++ charsOf [kind] line := by
  by_cases same : role = kind
  · simp [same, charsOf]
  · simp [same, charsOf]

namespace LineProgress

def extend (progress : LineProgress) (line : List (Char × CharRole)) (open? : Option OpenRegion) :
    LineProgress where
  outside := (charsOf [.code, .literal] line).reverse ++ progress.outside
  bare := (charsOf [.code] line).reverse ++ progress.bare
  comment := (charsOf [.comment] line).reverse ++ progress.comment
  touchesComment := progress.touchesComment || !(charsOf [.comment] line).isEmpty
  open? := open?

theorem extend_nil (progress : LineProgress) : progress.extend [] progress.open? = progress := by
  simp [extend, charsOf]

theorem extend_extend (progress : LineProgress) (first second : List (Char × CharRole))
    (middle last : Option OpenRegion) :
    (progress.extend first middle).extend second last = progress.extend (first ++ second) last := by
  simp only [extend, charsOf_append, List.reverse_append, List.append_assoc, LineProgress.mk.injEq,
    true_and, and_true]
  cases charsOf [.comment] first <;> simp

end LineProgress

theorem endsWithMarker_one (c d : Char) (recent : List Char) :
    endsWithMarker (c :: recent) [d] = decide (c = d) := by
  by_cases same : c = d
  · simp [endsWithMarker, same]
  · simp [endsWithMarker, List.isPrefixOf, same, Ne.symm same]

theorem endsWithMarker_two (c d e : Char) (recent : List Char) :
    endsWithMarker (c :: recent) [d, e] = decide (c = e ∧ recent.head? = some d) := by
  by_cases last : c = e
  · subst last
    cases recent with
    | nil => simp [endsWithMarker]
    | cons first rest =>
      by_cases before : first = d
      · simp [endsWithMarker, before]
      · simp [endsWithMarker, List.isPrefixOf, before, Ne.symm before]
  · simp [endsWithMarker, List.isPrefixOf, last, Ne.symm last]

theorem find?_literals (delimiters : List Char) (c : Char) (outside : List Char) :
    ((delimiters.map fun delimiter => Region.literal [delimiter]).find?
      fun region => region.opensAfter (c :: outside)) =
      if c ∈ delimiters then some (.literal [c]) else none := by
  induction delimiters with
  | nil => rfl
  | cons delimiter rest ih =>
    rw [List.map_cons, List.find?_cons, ih]
    simp only [Region.opensAfter, Region.opening, endsWithMarker_one]
    by_cases same : c = delimiter
    · simp [same]
    · simp [same]

/-- The first region that opens when a character arrives outside of all regions. -/
theorem Lexicon.find?_regions (lexicon : Lexicon) (c : Char) (outside : List Char) :
    (lexicon.regions.find? fun region => region.opensAfter (c :: outside)) =
      if lexicon.slashes ∧ c = '/' ∧ outside.head? = some '/' then some (.lineComment ['/', '/'])
      else if lexicon.slashes ∧ c = '*' ∧ outside.head? = some '/' then
        some (.blockComment ['/', '*'] ['*', '/'])
      else if lexicon.hash ∧ c = '#' then some (.lineComment ['#'])
      else if c ∈ lexicon.delimiters then some (.literal [c])
      else none := by
  rw [Lexicon.regions, List.find?_append, List.find?_append, find?_literals]
  have slashes : ((if lexicon.slashes then
      [Region.lineComment ['/', '/'], .blockComment ['/', '*'] ['*', '/']] else []).find?
        fun region => region.opensAfter (c :: outside)) =
      if lexicon.slashes ∧ c = '/' ∧ outside.head? = some '/' then some (.lineComment ['/', '/'])
      else if lexicon.slashes ∧ c = '*' ∧ outside.head? = some '/' then
        some (.blockComment ['/', '*'] ['*', '/'])
      else none := by
    cases lexicon.slashes with
    | false => simp
    | true =>
      simp only [if_true, List.find?_cons, List.find?_nil, Region.opensAfter, Region.opening,
        endsWithMarker_two, true_and]
      by_cases line : c = '/' ∧ outside.head? = some '/'
      · simp [line]
      · by_cases block : c = '*' ∧ outside.head? = some '/'
        · simp [block]
        · simp [line, block]
  have hash : ((if lexicon.hash then [Region.lineComment ['#']] else []).find?
      fun region => region.opensAfter (c :: outside)) =
      if lexicon.hash ∧ c = '#' then some (.lineComment ['#']) else none := by
    cases lexicon.hash with
    | false => simp
    | true =>
      simp only [if_true, List.find?_cons, List.find?_nil, Region.opensAfter, Region.opening,
        endsWithMarker_one, true_and]
      by_cases same : c = '#'
      · simp [same]
      · simp [same]
  rw [slashes, hash]
  split
  · rfl
  · split
    · rfl
    · split <;> rfl

/-! When an open region closes. -/

theorem byteSize_cons (c : Char) (text : List Char) :
    Text.byteSize (c :: text) = c.utf8Size + Text.byteSize text := rfl

/-- A marker at the end of a text can be cut off by its size. -/
theorem dropBytes?_append (marker text : List Char) :
    Text.dropBytes? (Text.byteSize marker) (marker ++ text) = some text := by
  induction marker with
  | nil => simp [Text.byteSize, Text.dropBytes?]
  | cons c rest ih =>
    obtain ⟨size, total⟩ : ∃ size, Text.byteSize (c :: rest) = size + 1 := by
      have positive := c.utf8Size_pos
      refine ⟨Text.byteSize (c :: rest) - 1, ?_⟩
      rw [byteSize_cons]
      omega
    have fits : c.utf8Size ≤ size + 1 := by
      rw [← total, byteSize_cons]
      exact Nat.le_add_right _ _
    have left : size + 1 - c.utf8Size = Text.byteSize rest := by
      rw [← total, byteSize_cons]
      exact Nat.add_sub_cancel_left _ _
    rw [total, List.cons_append, Text.dropBytes?, if_pos fits, left, ih]

theorem closesAfter_block (c : Char) (recent : List Char) :
    (Region.blockComment ['/', '*'] ['*', '/']).closesAfter (c :: recent) =
      decide (c = '/' ∧ recent.head? = some '*' ∧ 4 ≤ Text.byteSize (c :: recent)) := by
  have markers : Text.byteSize ['/', '*'] + Text.byteSize ['*', '/'] = 4 := by decide
  simp only [Region.closesAfter, endsWithMarker_two, markers, ← Bool.decide_and, and_assoc]

theorem closesAfter_literal {d : Char} (quote : d = '"' ∨ d = '\'') (c : Char)
    (recent : List Char) (opened : 1 ≤ Text.byteSize recent) :
    (Region.literal [d]).closesAfter (c :: recent) =
      decide (c = d ∧ (recent.takeWhile (· == '\\')).length % 2 = 0) := by
  have small : Text.byteSize [d] = 1 := by
    rcases quote with rfl | rfl <;> decide
  have room : 2 * Text.byteSize [d] ≤ Text.byteSize (c :: recent) := by
    have positive := c.utf8Size_pos
    rw [small, byteSize_cons]
    omega
  simp only [Region.closesAfter, endsWithMarker_one, room, decide_true, Bool.and_true,
    List.length_singleton, List.drop_succ_cons, List.drop_zero, beq_eq_decide, Bool.decide_and]

namespace LineProgress

variable {regions : List Region} {progress : LineProgress}

theorem consume?_comment {region : Region} {recent : List Char} (c : Char)
    (inside : progress.open? = some ⟨region, recent⟩) (isComment : region.isComment = true)
    (touched : progress.touchesComment = true) :
    progress.consume? regions c = some (progress.extend [(c, .comment)]
      (if region.closesAfter (c :: recent) then none else some ⟨region, c :: recent⟩)) := by
  simp only [consume?, inside, isComment, if_true, extend, charsOf]
  simp [touched]

theorem consume?_literal {region : Region} {recent : List Char} (c : Char)
    (inside : progress.open? = some ⟨region, recent⟩) (isLiteral : region.isComment = false) :
    progress.consume? regions c = some (progress.extend [(c, .literal)]
      (if region.closesAfter (c :: recent) then none else some ⟨region, c :: recent⟩)) := by
  simp only [consume?, inside, isLiteral, Bool.false_eq_true, if_false, extend, charsOf]
  simp

theorem consume?_code (c : Char) (outside : progress.open? = none)
    (unopened : (regions.find? fun region => region.opensAfter (c :: progress.outside)) = none) :
    progress.consume? regions c = some (progress.extend [(c, .code)] none) := by
  simp only [consume?, outside, unopened, extend, charsOf]
  simp

theorem consume?_hash (outside : progress.open? = none)
    (opened : (regions.find? fun region => region.opensAfter ('#' :: progress.outside)) =
      some (.lineComment ['#'])) :
    progress.consume? regions '#' =
      some (progress.extend [('#', .comment)] (some ⟨.lineComment ['#'], ['#']⟩)) := by
  have cut := dropBytes?_append ['#'] progress.bare
  simp only [List.cons_append, List.nil_append] at cut
  simp [consume?, outside, opened, enter?, Region.opening, Region.isComment, cut, extend, charsOf]

theorem consume?_quote {d : Char} (outside : progress.open? = none)
    (opened : (regions.find? fun region => region.opensAfter (d :: progress.outside)) =
      some (.literal [d])) :
    progress.consume? regions d =
      some (progress.extend [(d, .literal)] (some ⟨.literal [d], [d]⟩)) := by
  have cut := dropBytes?_append [d] progress.bare
  simp only [List.cons_append, List.nil_append] at cut
  simp [consume?, outside, opened, enter?, Region.opening, Region.isComment, cut, extend, charsOf]

/-- A marker of two characters: the first one is taken for code until the second one arrives. -/
theorem consume?_slash {region : Region} {next : Char} (outside : progress.open? = none)
    (isMarker : region = .lineComment ['/', '/'] ∧ next = '/' ∨
      region = .blockComment ['/', '*'] ['*', '/'] ∧ next = '*')
    (unopened : (regions.find? fun region => region.opensAfter ('/' :: progress.outside)) = none)
    (opened : (regions.find? fun region => region.opensAfter (next :: '/' :: progress.outside)) =
      some region) :
    ['/', next].foldlM (consume? regions) progress =
      some (progress.extend [('/', .comment), (next, .comment)]
        (some ⟨region, [next, '/']⟩)) := by
  have first := consume?_code '/' outside unopened
  have cut := dropBytes?_append [next, '/'] progress.bare
  simp only [List.cons_append, List.nil_append] at cut
  have second : (progress.extend [('/', .code)] none).consume? regions next =
      some (progress.extend [('/', .comment), (next, .comment)] (some ⟨region, [next, '/']⟩)) := by
    rcases isMarker with ⟨rfl, rfl⟩ | ⟨rfl, rfl⟩
    · simp [consume?, extend, charsOf, opened, enter?, Region.opening, Region.isComment, cut]
    · simp [consume?, extend, charsOf, opened, enter?, Region.opening, Region.isComment, cut]
  simp only [List.foldlM_cons, List.foldlM_nil, first, second, bind, Option.bind_some, pure]

end LineProgress

end CodeMetrics
