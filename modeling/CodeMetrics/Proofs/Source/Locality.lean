import CodeMetrics.Proofs.Source.Decisions
import CodeMetrics.Proofs.Source.Step

/-!
Classification is local. The only thing that crosses a line break is the region that is still open,
and only a block comment can be. So the lines of a text that ends with a line break are classified
the same whatever follows it, and what follows a text after which nothing is open is classified as
if it stood alone.
-/

namespace CodeMetrics

def openAfterLine? (regions : List Region) (open? : Option OpenRegion) (text : List Char) :
    Option (Option OpenRegion) :=
  (text.foldlM (LineProgress.consume? regions) (LineProgress.start open?)).map
    LineProgress.openAfter

def openAfterLines? (regions : List Region) (open? : Option OpenRegion)
    (texts : List (List Char)) : Option (Option OpenRegion) :=
  texts.foldlM (openAfterLine? regions) open?

def Source.openAfter? (regions : List Region) (text : List Char) : Option (Option OpenRegion) :=
  openAfterLines? regions none (Text.lines text)

def Line.shift (count : Nat) (line : Line) : Line :=
  { line with number := line.number + count }

instance : Add LineTotals where
  add first second :=
    { lines := first.lines + second.lines
      blankLines := first.blankLines + second.blankLines
      linesOfCode := first.linesOfCode + second.linesOfCode
      commentLines := first.commentLines + second.commentLines
      commentBlankLines := first.commentBlankLines + second.commentBlankLines
      commentedOutCodeLines := first.commentedOutCodeLines + second.commentedOutCodeLines }

/-! What a line break lets through. -/

theorem Region.eq_blockComment {region : Region} (stays : region.closesAtLineEnd = false) :
    ∃ start stop, region = .blockComment start stop := by
  cases region with
  | lineComment start => cases stays
  | blockComment start stop => exact ⟨start, stop, rfl⟩
  | literal delimiter => cases stays

/-- Whether a region that is open is a block comment, and one of those that are given. -/
def CarriesComment (regions : List Region) (open? : Option OpenRegion) : Prop :=
  ∀ current, open? = some current →
    current.region ∈ regions ∧ ∃ start stop, current.region = .blockComment start stop

theorem LineProgress.carriesComment {regions : List Region} {progress : LineProgress}
    (known : Knows regions progress.open?) : CarriesComment regions progress.openAfter := by
  intro current still
  unfold openAfter at still
  cases inside : progress.open? with
  | none => simp [inside] at still
  | some opened =>
    simp only [inside, Option.ite_none_left_eq_some, Option.some.injEq] at still
    obtain ⟨stays, rfl⟩ := still
    exact ⟨known opened inside, Region.eq_blockComment (by simpa using stays)⟩

theorem openAfterLines?_carriesComment {regions : List Region} {texts : List (List Char)}
    {before after : Option OpenRegion} (carried : CarriesComment regions before)
    (still : openAfterLines? regions before texts = some after) : CarriesComment regions after := by
  induction texts generalizing before with
  | nil =>
    obtain rfl := Option.some.inj still
    exact carried
  | cons text others ih =>
    obtain ⟨middle, line, rest⟩ := Option.bind_eq_some_iff.1 still
    obtain ⟨progress, consumed, rfl⟩ := Option.map_eq_some_iff.1 line
    have known : LineProgress.Knows regions (LineProgress.start before).open? :=
      fun current inside => (carried current inside).1
    exact ih (LineProgress.carriesComment (LineProgress.knows_of_foldlM known consumed)) rest

theorem Source.openAfter?_carriesComment {regions : List Region} {text : List Char}
    {open? : Option OpenRegion} (still : openAfter? regions text = some open?) :
    CarriesComment regions open? :=
  openAfterLines?_carriesComment (fun _ inside => by cases inside) still

/-! From the lines of one text to the lines of two. -/

theorem classifyLines?_append (regions : List Region) (recognizer : Recognizer)
    (before after : List (List Char)) (number : Nat) (open? : Option OpenRegion) :
    classifyLines? regions recognizer number open? (before ++ after) = (do
      let first ← classifyLines? regions recognizer number open? before
      let middle ← openAfterLines? regions open? before
      let second ← classifyLines? regions recognizer (number + before.length) middle after
      return first ++ second) := by
  induction before generalizing number open? with
  | nil => simp [classifyLines?, openAfterLines?]
  | cons text others ih =>
    rw [List.cons_append, classifyLines?, classifyLines?, openAfterLines?, List.foldlM_cons,
      openAfterLine?]
    cases text.foldlM (LineProgress.consume? regions) (LineProgress.start open?) with
    | none => rfl
    | some progress =>
      have length : number + (text :: others).length = number + 1 + others.length := by
        rw [List.length_cons]
        omega
      simp only [bind, Option.bind_some, Option.map_some, ih, length, pure, Option.bind_assoc,
        List.cons_append]
      rfl

theorem classifyLines?_shift (regions : List Region) (recognizer : Recognizer) (count : Nat)
    (texts : List (List Char)) (number : Nat) (open? : Option OpenRegion) :
    classifyLines? regions recognizer (number + count) open? texts =
      (classifyLines? regions recognizer number open? texts).map (List.map (Line.shift count)) := by
  induction texts generalizing number open? with
  | nil => rfl
  | cons text others ih =>
    rw [classifyLines?, classifyLines?]
    cases text.foldlM (LineProgress.consume? regions) (LineProgress.start open?) with
    | none => rfl
    | some progress =>
      have next : number + count + 1 = number + 1 + count := by omega
      simp only [bind, Option.bind_some, next, ih, pure, Option.bind_map]
      cases classifyLines? regions recognizer (number + 1) progress.openAfter others with
      | none => rfl
      | some lines => rfl

theorem length_of_classifyLines? {regions : List Region} {recognizer : Recognizer}
    {texts : List (List Char)} {number : Nat} {open? : Option OpenRegion} {lines : List Line}
    (classified : classifyLines? regions recognizer number open? texts = some lines) :
    lines.length = texts.length := by
  induction texts generalizing number open? lines with
  | nil =>
    obtain rfl := Option.some.inj classified
    rfl
  | cons text others ih =>
    obtain ⟨progress, _, rest⟩ := Option.bind_eq_some_iff.1 classified
    obtain ⟨later, found, whole⟩ := Option.bind_eq_some_iff.1 rest
    obtain rfl := Option.some.inj whole
    rw [List.length_cons, List.length_cons, ih found]

namespace Source

/-- The classified lines of two texts, the first of which ends with a line break. -/
theorem ofText?_append {regions : List Region} {recognizer : Recognizer}
    {first second : List Char} {joined : Source} (ended : Text.EndsLine first)
    (classified : ofText? regions recognizer (first ++ second) = some joined) :
    ∃ source open? rest, ofText? regions recognizer first = some source ∧
      openAfter? regions first = some open? ∧
      classifyLines? regions recognizer source.lines.length open? (Text.lines second) = some rest ∧
      joined.lines = source.lines ++ rest := by
  rw [ofText?, Text.lines_append ended, classifyLines?_append] at classified
  obtain ⟨lines, found, rfl⟩ := Option.map_eq_some_iff.1 classified
  obtain ⟨before, early, found⟩ := Option.bind_eq_some_iff.1 found
  obtain ⟨middle, still, found⟩ := Option.bind_eq_some_iff.1 found
  obtain ⟨rest, late, whole⟩ := Option.bind_eq_some_iff.1 found
  obtain rfl := Option.some.inj whole
  refine ⟨⟨before⟩, middle, rest, by rw [ofText?, early, Option.map_some], still, ?_, rfl⟩
  rwa [Nat.zero_add, ← length_of_classifyLines? early] at late

/-! What depends on the lines alone. -/

theorem totals_append (first second : List Line) (count : Nat) :
    (Source.mk (first ++ second.map (Line.shift count))).totals =
      (Source.mk first).totals + (Source.mk second).totals := by
  have same : ∀ test : Line → Bool, (∀ line, test (Line.shift count line) = test line) →
      (first ++ second.map (Line.shift count)).countP test =
        first.countP test + second.countP test := by
    intro test kept
    rw [List.countP_append, List.countP_map]
    congr 2
    funext line
    exact kept line
  simp only [totals, same Line.isBlank fun _ => rfl, same Line.hasCode fun _ => rfl,
    same (fun line => line.comment? = some .text) fun _ => rfl,
    same (fun line => line.comment? = some .blank) fun _ => rfl,
    same (fun line => line.comment? = some .code) fun _ => rfl, List.length_append, List.length_map]
  rfl

end Source

theorem Language.complexity_of_source {language : Language} {recognizer : Recognizer}
    {text : List Char} {source : Source}
    (classified : Source.ofText? language.regions recognizer text = some source) :
    language.complexity recognizer text = 1 + language.decisionsOf source.lines := by
  rw [complexity_eq_decisionsOf, Language.source, classified]
  rfl

theorem Language.decisionsOf_append (language : Language) (first second : List Line) (count : Nat) :
    language.decisionsOf (first ++ second.map (Line.shift count)) =
      language.decisionsOf first + language.decisionsOf second := by
  have code : Line.hasCode ∘ Line.shift count = Line.hasCode := rfl
  have bare : (fun line => language.decisions line.bareCode) ∘ Line.shift count =
      fun line => language.decisions line.bareCode := rfl
  rw [decisionsOf, List.filter_append, List.filter_map, code, List.map_append, List.map_map, bare,
    List.sum_append]
  rfl

/-- A text that is empty or ends with a line break is classified the same whatever follows it; only
a block comment can be open after it; and when nothing is, what follows is classified as if it stood
alone, with later numbers, so that totals and complexities add up. -/
theorem Source.ofText?_append_local (regions : List Region) (recognizer : Recognizer)
    (first second : List Char) (joined : Source) (ended : Text.EndsLine first)
    (classified : ofText? regions recognizer (first ++ second) = some joined) :
    ∃ source open?, ofText? regions recognizer first = some source ∧
      openAfter? regions first = some open? ∧
      source.lines <+: joined.lines ∧
      (∀ current, open? = some current →
        current.region ∈ regions ∧ ∃ start stop, current.region = .blockComment start stop) ∧
      (open? = none → ∃ rest, ofText? regions recognizer second = some rest ∧
        joined.lines = source.lines ++ rest.lines.map (Line.shift source.lines.length) ∧
        joined.totals = source.totals + rest.totals ∧
        ∀ language : Language, language.regions = regions →
          language.complexity recognizer (first ++ second) =
            language.complexity recognizer first + language.complexity recognizer second - 1) := by
  obtain ⟨source, open?, rest, early, still, late, whole⟩ := ofText?_append ended classified
  refine ⟨source, open?, early, still, whole ▸ List.prefix_append _ _,
    openAfter?_carriesComment still, ?_⟩
  rintro rfl
  rw [← Nat.zero_add source.lines.length, classifyLines?_shift] at late
  obtain ⟨lines, alone, rfl⟩ := Option.map_eq_some_iff.1 late
  have second_eq : ofText? regions recognizer second = some ⟨lines⟩ := by
    rw [ofText?, alone, Option.map_some]
  have joined_eq : joined = ⟨source.lines ++ lines.map (Line.shift source.lines.length)⟩ := by
    cases joined
    exact congrArg Source.mk whole
  refine ⟨⟨lines⟩, second_eq, whole, by rw [joined_eq, totals_append], ?_⟩
  rintro language rfl
  rw [Language.complexity_of_source classified, Language.complexity_of_source early,
    Language.complexity_of_source second_eq, whole, Language.decisionsOf_append]
  dsimp only
  omega

def Source.sampleStart : List Char :=
  "if (a) /*\r\n*/ b\n".toList

def Source.sampleRest : List Char :=
  "c && d".toList

def Source.sampleJoined : Source where
  lines :=
    [⟨1, true, some .blank, "if (a) ".toList, "if (a) ".toList⟩,
      ⟨2, true, some .blank, " b".toList, " b".toList⟩,
      ⟨3, true, none, "c && d".toList, "c && d".toList⟩]

theorem Source.ofText?_append_local_sample :
    Text.EndsLine sampleStart ∧
      ofText? Language.c.regions (Language.c.recognizer 0.9) (sampleStart ++ sampleRest) =
        some sampleJoined ∧
      openAfter? Language.c.regions sampleStart = some none ∧
      ∃ source rest,
        ofText? Language.c.regions (Language.c.recognizer 0.9) sampleStart = some source ∧
        ofText? Language.c.regions (Language.c.recognizer 0.9) sampleRest = some rest ∧
        sampleJoined.lines = source.lines ++ rest.lines.map (Line.shift source.lines.length) ∧
        sampleJoined.totals = source.totals + rest.totals ∧
        Language.c.complexity (Language.c.recognizer 0.9) (sampleStart ++ sampleRest) =
          Language.c.complexity (Language.c.recognizer 0.9) sampleStart +
            Language.c.complexity (Language.c.recognizer 0.9) sampleRest - 1 := by
  have ended : Text.EndsLine sampleStart := .inr (by decide +kernel)
  have classified : ofText? Language.c.regions (Language.c.recognizer 0.9)
      (sampleStart ++ sampleRest) = some sampleJoined := by decide +kernel
  have shut : openAfter? Language.c.regions sampleStart = some none := by decide +kernel
  obtain ⟨source, open?, early, still, _, _, alone⟩ :=
    ofText?_append_local _ _ _ _ _ ended classified
  obtain ⟨rest, late, lines, totals, complexity⟩ := alone (Option.some.inj (still.symm.trans shut))
  exact ⟨ended, classified, shut, source, rest, early, late, lines, totals, complexity .c rfl⟩

end CodeMetrics
