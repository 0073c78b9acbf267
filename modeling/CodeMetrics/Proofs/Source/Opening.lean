import CodeMetrics.Proofs.Source.Overlap

/-!
Where a classification fails: exactly where a region opens and its marker cannot be cut off the bare
text. Regions of which no marker overlaps a delimiter never get there. A literal whose delimiter
overlaps itself does, on the empty literal with the rest of a delimiter right behind it.
-/

namespace CodeMetrics

/-! A literal whose delimiter overlaps itself. -/

def LineProgress.uncommented (outside bare : List Char) (open? : Option OpenRegion) :
    LineProgress where
  outside
  bare
  touchesComment := false
  open?

namespace LineProgress

variable {delimiter text recent outside bare : List Char} {c : Char}

theorem opens_literal_iff :
    (uncommented outside bare none).Opens [.literal delimiter] c (.literal delimiter) ↔
      delimiter ≠ [] ∧ delimiter.reverse <+: c :: outside := by
  rw [Opens, List.find?_singleton, ← endsWithMarker_iff]
  by_cases ends : endsWithMarker (c :: outside) delimiter = true
  · simp [uncommented, Region.opensAfter, Region.opening, ends]
  · simp [uncommented, Region.opensAfter, Region.opening, ends]

theorem consume?_unopened (unopened : ¬delimiter.reverse <+: c :: outside) :
    (uncommented outside bare none).consume? [.literal delimiter] c =
      some (uncommented (c :: outside) (c :: bare) none) := by
  have closed : endsWithMarker (c :: outside) delimiter = false := by
    rw [← Bool.not_eq_true, endsWithMarker_iff]
    exact fun ends => unopened ends.2
  simp [consume?, uncommented, Region.opensAfter, Region.opening, closed]

/-- A text that is shorter than the delimiter opens no literal. -/
theorem foldlM_short (short : outside.length + text.length < delimiter.length) :
    text.foldlM (consume? [.literal delimiter]) (uncommented outside bare none) =
      some (uncommented (text.reverse ++ outside) (text.reverse ++ bare) none) := by
  induction text generalizing outside bare with
  | nil => rfl
  | cons c rest ih =>
    have unopened : ¬delimiter.reverse <+: c :: outside := by
      intro ends
      have fits := ends.length_le
      simp only [List.length_reverse, List.length_cons] at fits short
      omega
    have shorter : (c :: outside).length + rest.length < delimiter.length := by
      simp only [List.length_cons] at short ⊢
      omega
    rw [List.foldlM_cons, consume?_unopened unopened, Option.bind_eq_bind, Option.bind_some,
      ih shorter]
    simp

/-- A delimiter opens the literal. -/
theorem foldlM_opens (nonempty : delimiter ≠ []) :
    delimiter.foldlM (consume? [.literal delimiter]) (uncommented [] [] none) =
      some (uncommented delimiter.reverse [] (some ⟨.literal delimiter, delimiter.reverse⟩)) := by
  obtain ⟨front, last, whole⟩ := List.eq_nil_or_concat' delimiter |>.resolve_left nonempty
  have short : ([] : List Char).length + front.length < delimiter.length := by
    rw [whole]
    simp
  have reversed : last :: front.reverse = delimiter.reverse := by simp [whole]
  have run : front.foldlM (consume? [.literal delimiter]) (uncommented [] [] none) =
      some (uncommented front.reverse front.reverse none) := by
    rw [foldlM_short short, List.append_nil]
  have opens : (uncommented front.reverse front.reverse none).Opens [.literal delimiter] last
      (.literal delimiter) :=
    opens_literal_iff.2 ⟨nonempty, reversed ▸ List.prefix_rfl⟩
  have cut := dropBytes?_append delimiter.reverse []
  rw [List.append_nil] at cut
  have parts : delimiter.foldlM (consume? [.literal delimiter]) (uncommented [] [] none) =
      (front ++ [last]).foldlM (consume? [.literal delimiter]) (uncommented [] [] none) := by
    rw [← whole]
  rw [parts, List.foldlM_append, run, Option.bind_eq_bind, Option.bind_some, List.foldlM_cons,
    consume?_opens opens]
  simp [enter?, uncommented, Region.opening, Region.isComment, reversed, cut]

/-- A text that leaves no room for two delimiters closes no literal. -/
theorem foldlM_within
    (short : Text.byteSize recent + Text.byteSize text < 2 * Text.byteSize delimiter) :
    text.foldlM (consume? [.literal delimiter])
        (uncommented outside bare (some ⟨.literal delimiter, recent⟩)) =
      some (uncommented (text.reverse ++ outside) bare
        (some ⟨.literal delimiter, text.reverse ++ recent⟩)) := by
  induction text generalizing outside recent with
  | nil => rfl
  | cons c rest ih =>
    rw [byteSize_cons] at short
    have stays : (Region.literal delimiter).closesAfter (c :: recent) = false := by
      have tight : ¬2 * Text.byteSize delimiter ≤ Text.byteSize (c :: recent) := by
        rw [byteSize_cons]
        omega
      simp [Region.closesAfter, tight]
    have grown :
        Text.byteSize (c :: recent) + Text.byteSize rest < 2 * Text.byteSize delimiter := by
      rw [byteSize_cons]
      omega
    have step : (uncommented outside bare (some ⟨.literal delimiter, recent⟩)).consume?
          [.literal delimiter] c =
        some (uncommented (c :: outside) bare (some ⟨.literal delimiter, c :: recent⟩)) := by
      simp [consume?, uncommented, stays, Region.isComment]
    rw [List.foldlM_cons, step, Option.bind_eq_bind, Option.bind_some, ih grown]
    simp

/-- A second delimiter closes it, unless the first one escapes it. -/
theorem foldlM_closes (nonempty : delimiter ≠ []) (unescaped : delimiter.getLast? ≠ some '\\') :
    delimiter.foldlM (consume? [.literal delimiter])
        (uncommented outside bare (some ⟨.literal delimiter, delimiter.reverse⟩)) =
      some (uncommented (delimiter.reverse ++ outside) bare none) := by
  obtain ⟨front, last, whole⟩ := List.eq_nil_or_concat' delimiter |>.resolve_left nonempty
  have reversed : last :: front.reverse = delimiter.reverse := by simp [whole]
  have size := byteSize_reverse delimiter
  have short : Text.byteSize delimiter.reverse + Text.byteSize front <
      2 * Text.byteSize delimiter := by
    have total : Text.byteSize delimiter = Text.byteSize front + Text.byteSize [last] := by
      rw [whole, byteSize_append]
    have positive := byteSize_pos (List.cons_ne_nil last [])
    omega
  have closes :
      (Region.literal delimiter).closesAfter (delimiter.reverse ++ delimiter.reverse) = true := by
    have ends : endsWithMarker (delimiter.reverse ++ delimiter.reverse) delimiter = true :=
      endsWithMarker_iff.2 ⟨nonempty, List.prefix_append _ _⟩
    have room : 2 * Text.byteSize delimiter ≤
        Text.byteSize (delimiter.reverse ++ delimiter.reverse) := by
      rw [byteSize_append, size]
      omega
    have free : delimiter.reverse.takeWhile (· == '\\') = [] := by
      rw [← reversed, List.takeWhile_cons_of_neg]
      intro escape
      apply unescaped
      simp [whole, beq_iff_eq.1 escape]
    have behind : (delimiter.reverse ++ delimiter.reverse).drop delimiter.length =
        delimiter.reverse := List.drop_left' (List.length_reverse)
    simp only [Region.closesAfter, ends, room, behind, free]
    rfl
  have step : (uncommented (front.reverse ++ outside) bare
        (some ⟨.literal delimiter, front.reverse ++ delimiter.reverse⟩)).consume?
        [.literal delimiter] last =
      some (uncommented (delimiter.reverse ++ outside) bare none) := by
    rw [← reversed] at closes
    simp only [List.cons_append] at closes
    rw [← reversed]
    simp [consume?, uncommented, closes, Region.isComment]
  have parts : ∀ start, delimiter.foldlM (consume? [.literal delimiter]) start =
      (front ++ [last]).foldlM (consume? [.literal delimiter]) start := by
    intro start
    rw [← whole]
  rw [parts, List.foldlM_append, foldlM_within short, Option.bind_eq_bind, Option.bind_some,
    List.foldlM_cons, step]
  rfl

/-- A text at whose end a delimiter is found cannot be consumed where the bare text stays shorter
than a delimiter. -/
theorem foldlM_fails (nonempty : text ≠ []) (delimited : delimiter ≠ [])
    (found : delimiter.reverse <+: text.reverse ++ outside)
    (short : Text.byteSize bare + Text.byteSize text < Text.byteSize delimiter) :
    text.foldlM (consume? [.literal delimiter]) (uncommented outside bare none) = none := by
  induction text generalizing outside bare with
  | nil => exact absurd rfl nonempty
  | cons c rest ih =>
    rw [byteSize_cons] at short
    by_cases ends : delimiter.reverse <+: c :: outside
    · have stuck : (uncommented outside bare none).consume? [.literal delimiter] c = none := by
        refine consume?_eq_none_iff.2 ⟨_, opens_literal_iff.2 ⟨delimited, ends⟩, ?_⟩
        rintro ⟨cut, ⟨left, split⟩, size⟩
        have total := congrArg Text.byteSize split
        rw [byteSize_append, size] at total
        simp only [Region.opening, byteSize_reverse, uncommented, byteSize_cons] at total
        omega
      rw [List.foldlM_cons, stuck]
      rfl
    · have later : rest ≠ [] := by
        rintro rfl
        exact ends (by simpa using found)
      rw [List.foldlM_cons, consume?_unopened ends, Option.bind_eq_bind, Option.bind_some]
      refine ih later (by simpa using found) ?_
      rw [byteSize_cons]
      omega

end LineProgress

/-- A literal fails on some text where its delimiter fits into a line, overlaps itself and does not
end with a backslash, which would escape a delimiter behind it. -/
theorem Source.exists_fails_of_overlaps {delimiter : List Char}
    (overlaps : Overlaps delimiter delimiter) (unescaped : delimiter.getLast? ≠ some '\\')
    (inLine : '\n' ∉ delimiter) (recognizer : Recognizer) :
    ∃ text, ofText? [.literal delimiter] recognizer text = none := by
  obtain ⟨length, less, positive, ends⟩ := overlaps
  have early : delimiter.take length <:+ delimiter := by
    refine ends.resolve_right fun longer => ?_
    have fits := longer.length_le
    rw [List.length_take] at fits
    omega
  have delimited : delimiter ≠ [] := by
    rintro rfl
    simp at less
  have late : delimiter.drop length ≠ [] := by
    simpa using less
  have split := List.take_append_drop length delimiter
  have found : delimiter.reverse <+:
      (delimiter.drop length).reverse ++ (delimiter.reverse ++ delimiter.reverse) := by
    nth_rewrite 1 [← split]
    rw [List.reverse_append, List.prefix_append_right_inj]
    exact (List.reverse_prefix.2 early).trans (List.prefix_append _ _)
  have short : Text.byteSize [] + Text.byteSize (delimiter.drop length) <
      Text.byteSize delimiter := by
    have total := congrArg Text.byteSize split
    rw [byteSize_append] at total
    have front : 0 < Text.byteSize (delimiter.take length) := by
      apply byteSize_pos
      intro nothing
      have length_eq := congrArg List.length nothing
      rw [List.length_take, List.length_nil] at length_eq
      omega
    have empty : Text.byteSize [] = 0 := rfl
    omega
  -- A literal opens and closes; its end and the rest of a third delimiter are a marker again.
  refine ⟨delimiter ++ (delimiter ++ delimiter.drop length), ?_⟩
  have single : Text.lines (delimiter ++ (delimiter ++ delimiter.drop length)) =
      [delimiter ++ (delimiter ++ delimiter.drop length)] := by
    apply Text.lines_single
    · simp [delimited]
    · simp only [List.mem_append, not_or]
      exact ⟨inLine, inLine, fun found => inLine (List.mem_of_mem_drop found)⟩
  have failed : (delimiter ++ (delimiter ++ delimiter.drop length)).foldlM
      (LineProgress.consume? [.literal delimiter]) (LineProgress.start none) = none := by
    have start : LineProgress.start none = LineProgress.uncommented [] [] none := rfl
    rw [start, List.foldlM_append, LineProgress.foldlM_opens delimited, Option.bind_eq_bind,
      Option.bind_some, List.foldlM_append, LineProgress.foldlM_closes delimited unescaped,
      Option.bind_eq_bind, Option.bind_some, LineProgress.foldlM_fails late delimited found short]
  rw [ofText?, single, classifyLines?, failed]
  rfl

/-! The points of a text, and where its classification fails. -/

/-- A run of steps that may fail does so at a first step. -/
theorem foldlM_eq_none_iff {α β : Type} (step : β → α → Option β) (entries : List α) (start : β) :
    entries.foldlM step start = none ↔ ∃ before entry after state,
      entries = before ++ entry :: after ∧ before.foldlM step start = some state ∧
        step state entry = none := by
  constructor
  · intro failed
    induction entries generalizing start with
    | nil => cases failed
    | cons entry others ih =>
      cases first : step start entry with
      | none => exact ⟨[], entry, others, start, rfl, rfl, first⟩
      | some state =>
        rw [List.foldlM_cons, first] at failed
        obtain ⟨before, later, after, last, rfl, reached, stuck⟩ := ih state failed
        refine ⟨entry :: before, later, after, last, rfl, ?_, stuck⟩
        rw [List.foldlM_cons, first]
        exact reached
  · rintro ⟨before, entry, after, state, rfl, reached, stuck⟩
    rw [List.foldlM_append, reached]
    simp [stuck]

theorem classifyLines?_eq_none_iff (regions : List Region) (recognizer : Recognizer)
    (texts : List (List Char)) (number : Nat) (open? : Option OpenRegion) :
    classifyLines? regions recognizer number open? texts = none ↔
      openAfterLines? regions open? texts = none := by
  induction texts generalizing number open? with
  | nil => simp [classifyLines?, openAfterLines?]
  | cons text others ih =>
    rw [classifyLines?, openAfterLines?, List.foldlM_cons, openAfterLine?]
    cases text.foldlM (LineProgress.consume? regions) (LineProgress.start open?) with
    | none => simp
    | some progress =>
      have later := ih (number + 1) progress.openAfter
      rw [openAfterLines?] at later
      simp only [bind, Option.bind_some, Option.map_some, ← later]
      cases classifyLines? regions recognizer (number + 1) progress.openAfter others with
      | none => simp
      | some lines => simp

namespace Source

/-- The progress of a line of a text just before one of its characters. -/
def Arrives (regions : List Region) (text : List Char) (progress : LineProgress) (c : Char) :
    Prop :=
  ∃ done consumed rest others open?, Text.lines text = done ++ (consumed ++ c :: rest) :: others ∧
    openAfterLines? regions none done = some open? ∧
    consumed.foldlM (LineProgress.consume? regions) (LineProgress.start open?) = some progress

/-- The classification of a text fails exactly where it arrives at a character that cannot be
consumed. -/
theorem ofText?_eq_none_iff (regions : List Region) (recognizer : Recognizer) (text : List Char) :
    ofText? regions recognizer text = none ↔ ∃ progress c, Arrives regions text progress c ∧
      progress.consume? regions c = none := by
  rw [ofText?, Option.map_eq_none_iff, classifyLines?_eq_none_iff, openAfterLines?,
    foldlM_eq_none_iff]
  constructor
  · rintro ⟨done, line, others, open?, split, reached, stuck⟩
    rw [openAfterLine?, Option.map_eq_none_iff, foldlM_eq_none_iff] at stuck
    obtain ⟨consumed, c, rest, progress, rfl, arrived, stuck⟩ := stuck
    exact ⟨progress, c, ⟨done, consumed, rest, others, open?, split, reached, arrived⟩, stuck⟩
  · rintro ⟨progress, c, ⟨done, consumed, rest, others, open?, split, reached, arrived⟩, stuck⟩
    refine ⟨done, _, others, open?, split, reached, ?_⟩
    rw [openAfterLine?, Option.map_eq_none_iff, foldlM_eq_none_iff]
    exact ⟨consumed, c, rest, progress, rfl, arrived, stuck⟩

theorem Arrives.exists_tagged {regions : List Region} {text : List Char} {progress : LineProgress}
    {c : Char} (arrives : Arrives regions text progress c) (apart : Apart regions) :
    ∃ tags, progress.Tagged regions tags := by
  obtain ⟨done, consumed, rest, others, open?, _, reached, arrived⟩ := arrives
  have carried : CarriesComment regions open? :=
    openAfterLines?_carriesComment (fun _ inside => by cases inside) reached
  exact LineProgress.exists_tagged_of_foldlM apart (LineProgress.tagged_start carried) arrived

/-- Whatever the regions, the text outside of comments ends with the marker of a region that opens,
and a classification fails exactly where no end of the bare text is as long as that marker. Where no
marker overlaps the delimiter of a literal, the bare text ends with the marker too, and every text
has a classification; and a literal whose delimiter overlaps itself does fail. -/
theorem ofText?_fails_where_marker_uncut (regions : List Region) :
    (∀ text progress c region, Arrives regions text progress c →
      progress.Opens regions c region → region.opening.reverse <+: c :: progress.outside) ∧
    (∀ recognizer text, ofText? regions recognizer text = none ↔ ∃ progress c region,
      Arrives regions text progress c ∧ progress.Opens regions c region ∧
        ¬∃ cut, cut <+: c :: progress.bare ∧
          Text.byteSize cut = Text.byteSize region.opening.reverse) ∧
    (Apart regions →
      (∀ text progress c region, Arrives regions text progress c →
        progress.Opens regions c region → region.opening.reverse <+: c :: progress.bare) ∧
      ∀ recognizer text, ∃ source, ofText? regions recognizer text = some source) ∧
    ∀ delimiter, Overlaps delimiter delimiter → delimiter.getLast? ≠ some '\\' →
      '\n' ∉ delimiter → ∀ recognizer, ∃ text,
        ofText? [.literal delimiter] recognizer text = none := by
  have fails : ∀ recognizer text, ofText? regions recognizer text = none ↔
      ∃ progress c region, Arrives regions text progress c ∧ progress.Opens regions c region ∧
        ¬∃ cut, cut <+: c :: progress.bare ∧
          Text.byteSize cut = Text.byteSize region.opening.reverse := by
    intro recognizer text
    simp only [ofText?_eq_none_iff, LineProgress.consume?_eq_none_iff, exists_and_left]
  have ends : Apart regions → ∀ text progress c region, Arrives regions text progress c →
      progress.Opens regions c region → region.opening.reverse <+: c :: progress.bare := by
    intro apart text progress c region arrives opens
    obtain ⟨tags, tagged⟩ := arrives.exists_tagged apart
    exact tagged.bare_marker apart opens
  refine ⟨fun _ _ _ _ _ opens => opens.marker.2, fails, fun apart => ⟨ends apart, ?_⟩,
    fun _ => exists_fails_of_overlaps⟩
  intro recognizer text
  rw [← Option.ne_none_iff_exists']
  intro failed
  obtain ⟨progress, c, region, arrives, opens, uncut⟩ := (fails recognizer text).1 failed
  exact uncut ⟨_, ends apart text progress c region arrives opens, rfl⟩

theorem ofText?_of_rust_and_of_quotes :
    (Apart Language.rust.regions ∧ ∀ recognizer text, ∃ source,
      ofText? Language.rust.regions recognizer text = some source) ∧
    Overlaps "\"\"\"".toList "\"\"\"".toList ∧ ∀ recognizer, ∃ text,
      ofText? [.literal "\"\"\"".toList] recognizer text = none := by
  have apart := Language.rust.apart_regions
  have overlaps : Overlaps "\"\"\"".toList "\"\"\"".toList := by decide +kernel
  refine ⟨⟨apart, ((ofText?_fails_where_marker_uncut _).2.2.1 apart).2⟩, overlaps, ?_⟩
  exact (ofText?_fails_where_marker_uncut []).2.2.2 _ overlaps (by decide +kernel)
    (by decide +kernel)

/-- A literal between threefold quotes, and one more quote right behind it: the last three quotes
are taken for the beginning of the next literal, and cutting three bytes off the bare text falls
into the character before the first literal. -/
theorem ofText?_fails_on_fourth_quote :
    ofText? [.literal "\"\"\"".toList] (Language.python.recognizer 0.9)
      "€\"\"\"x\"\"\"\"".toList = none := by
  decide +kernel

end Source

end CodeMetrics
