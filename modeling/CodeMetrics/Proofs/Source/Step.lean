import CodeMetrics.Proofs.Source.Progress

/-!
What one character can do to the progress of a line, for any regions: it goes on with the region
that is open, it stays outside of regions, or it opens one. The last is the only case that can fail,
and it fails exactly where no end of the bare text is as long as the marker.
-/

namespace CodeMetrics

theorem byteSize_append (first second : List Char) :
    Text.byteSize (first ++ second) = Text.byteSize first + Text.byteSize second := by
  induction first with
  | nil => exact (Nat.zero_add _).symm
  | cons c rest ih =>
    rw [List.cons_append, byteSize_cons, byteSize_cons, ih]
    omega

theorem byteSize_reverse (text : List Char) : Text.byteSize text.reverse = Text.byteSize text := by
  induction text with
  | nil => rfl
  | cons c rest ih =>
    rw [List.reverse_cons, byteSize_append, ih, byteSize_cons, byteSize_cons]
    exact Nat.add_comm _ _

theorem byteSize_pos {text : List Char} (nonempty : text ≠ []) : 0 < Text.byteSize text := by
  obtain ⟨c, rest, rfl⟩ := List.exists_cons_of_ne_nil nonempty
  rw [byteSize_cons]
  exact Nat.add_pos_left c.utf8Size_pos _

/-- What is cut off a text by its size stands at its front. -/
theorem dropBytes?_eq_some_iff (size : Nat) (text rest : List Char) :
    Text.dropBytes? size text = some rest ↔
      ∃ cut, text = cut ++ rest ∧ Text.byteSize cut = size := by
  constructor
  · intro dropped
    fun_induction Text.dropBytes? size text with
    | case1 text => exact ⟨[], Option.some.inj dropped, rfl⟩
    | case2 size => cases dropped
    | case3 size c others fits ih =>
      obtain ⟨cut, rfl, total⟩ := ih dropped
      refine ⟨c :: cut, rfl, ?_⟩
      rw [byteSize_cons, total]
      omega
    | case4 size c others tight => cases dropped
  · rintro ⟨cut, rfl, rfl⟩
    exact dropBytes?_append cut rest

def OpenRegion.next? (current : OpenRegion) (c : Char) : Option OpenRegion :=
  if current.region.closesAfter (c :: current.recent) then none
  else some { current with recent := c :: current.recent }

theorem OpenRegion.next?_eq_none_iff {current : OpenRegion} {c : Char} :
    current.next? c = none ↔ current.region.closesAfter (c :: current.recent) = true := by
  simp [next?]

theorem OpenRegion.next?_eq_some {current later : OpenRegion} {c : Char}
    (open? : current.next? c = some later) :
    later.region = current.region ∧ later.recent = c :: current.recent := by
  rw [next?, Option.ite_none_left_eq_some] at open?
  obtain rfl := Option.some.inj open?.2
  exact ⟨rfl, rfl⟩

def Region.opened (region : Region) : OpenRegion :=
  ⟨region, region.opening.reverse⟩

theorem endsWithMarker_iff {recent marker : List Char} :
    endsWithMarker recent marker = true ↔ marker ≠ [] ∧ marker.reverse <+: recent := by
  simp [endsWithMarker, List.isPrefixOf_iff_prefix]

/-- A literal ends with its delimiter. -/
theorem Region.ends_of_closesAfter {region : Region} {recent : List Char}
    (isLiteral : region.isComment = false) (closes : region.closesAfter recent = true) :
    region.opening ≠ [] ∧ region.opening.reverse <+: recent := by
  cases region with
  | lineComment start => cases isLiteral
  | blockComment start stop => cases isLiteral
  | literal delimiter =>
    simp only [closesAfter, Bool.and_eq_true] at closes
    exact endsWithMarker_iff.1 closes.1.1

namespace LineProgress

variable {regions : List Region} {progress next : LineProgress} {c : Char} {region : Region}

def Opens (regions : List Region) (progress : LineProgress) (c : Char) (region : Region) : Prop :=
  progress.open? = none ∧
    (regions.find? fun region => region.opensAfter (c :: progress.outside)) = some region

/-- The text outside of comments always ends with the marker that is found there. -/
theorem Opens.marker (opens : progress.Opens regions c region) :
    region.opening ≠ [] ∧ region.opening.reverse <+: c :: progress.outside := by
  have found := List.find?_some opens.2
  exact endsWithMarker_iff.1 found

theorem Opens.mem (opens : progress.Opens regions c region) : region ∈ regions :=
  List.mem_of_find?_eq_some opens.2

inductive Consumed (regions : List Region) (progress : LineProgress) (c : Char) :
    LineProgress → Prop
  | comment (current : OpenRegion) (inside : progress.open? = some current)
      (isComment : current.region.isComment = true) :
      Consumed regions progress c
        { progress with comment := c :: progress.comment, open? := current.next? c }
  | literal (current : OpenRegion) (inside : progress.open? = some current)
      (isLiteral : current.region.isComment = false) :
      Consumed regions progress c
        { progress with outside := c :: progress.outside, open? := current.next? c }
  | code (outside : progress.open? = none)
      (unopened : ∀ region, ¬progress.Opens regions c region) :
      Consumed regions progress c
        { progress with outside := c :: progress.outside, bare := c :: progress.bare }
  | opensComment (region : Region) (opens : progress.Opens regions c region)
      (isComment : region.isComment = true) (cut bare : List Char)
      (split : c :: progress.bare = cut ++ bare)
      (size : Text.byteSize cut = Text.byteSize region.opening.reverse) :
      Consumed regions progress c
        { progress with
          outside := (c :: progress.outside).drop region.opening.length, bare
          comment := region.opening.reverse ++ progress.comment, touchesComment := true
          open? := some region.opened }
  | opensLiteral (region : Region) (opens : progress.Opens regions c region)
      (isLiteral : region.isComment = false) (cut bare : List Char)
      (split : c :: progress.bare = cut ++ bare)
      (size : Text.byteSize cut = Text.byteSize region.opening.reverse) :
      Consumed regions progress c
        { progress with outside := c :: progress.outside, bare, open? := some region.opened }

theorem consume?_inside {current : OpenRegion} (inside : progress.open? = some current) :
    progress.consume? regions c =
      if current.region.isComment then
        some { progress with comment := c :: progress.comment, open? := current.next? c }
      else some { progress with outside := c :: progress.outside, open? := current.next? c } := by
  simp only [consume?, inside, OpenRegion.next?]

theorem consume?_opens (opens : progress.Opens regions c region) :
    progress.consume? regions c =
      { progress with outside := c :: progress.outside, bare := c :: progress.bare }.enter?
        region := by
  simp only [consume?, opens.1, opens.2]

theorem consumed_of_consume? (consumed : progress.consume? regions c = some next) :
    Consumed regions progress c next := by
  cases inside : progress.open? with
  | some current =>
    rw [consume?_inside inside] at consumed
    by_cases isComment : current.region.isComment = true
    · rw [if_pos isComment] at consumed
      obtain rfl := Option.some.inj consumed
      exact .comment current inside isComment
    · rw [if_neg isComment] at consumed
      obtain rfl := Option.some.inj consumed
      exact .literal current inside (by simpa using isComment)
  | none =>
    cases found : regions.find? fun region => region.opensAfter (c :: progress.outside) with
    | none =>
      simp only [consume?, inside, found] at consumed
      obtain rfl := Option.some.inj consumed
      rw [← inside]
      exact .code inside fun region opens => by cases found.symm.trans opens.2
    | some region =>
      have opens : progress.Opens regions c region := ⟨inside, found⟩
      rw [consume?_opens opens] at consumed
      obtain ⟨bare, dropped, rest⟩ := Option.bind_eq_some_iff.1 consumed
      obtain ⟨cut, split, size⟩ := (dropBytes?_eq_some_iff _ _ _).1 dropped
      by_cases isComment : region.isComment = true
      · simp only [isComment, if_true, List.length_reverse] at rest
        obtain rfl := Option.some.inj rest
        exact .opensComment region opens isComment cut bare split size
      · simp only [isComment] at rest
        obtain rfl := Option.some.inj rest
        exact .opensLiteral region opens (by simpa using isComment) cut bare split size

/-- A character fails to be consumed exactly where it opens a region and no end of the bare text is
as long as the marker. -/
theorem consume?_eq_none_iff :
    progress.consume? regions c = none ↔ ∃ region, progress.Opens regions c region ∧
      ¬∃ cut, cut <+: c :: progress.bare ∧
        Text.byteSize cut = Text.byteSize region.opening.reverse := by
  cases inside : progress.open? with
  | some current =>
    rw [consume?_inside inside]
    have shut : ∀ region, ¬progress.Opens regions c region := by
      rintro region ⟨outside, _⟩
      cases inside.symm.trans outside
    constructor
    · intro failed
      split at failed <;> cases failed
    · rintro ⟨region, opens, _⟩
      exact absurd opens (shut region)
  | none =>
    cases found : regions.find? fun region => region.opensAfter (c :: progress.outside) with
    | none =>
      simp [consume?, inside, found, Opens]
    | some region =>
      have opens : progress.Opens regions c region := ⟨inside, found⟩
      -- The first region that opens is the one that is asked, so no other one can rescue the step.
      have only : ∀ other, progress.Opens regions c other → other = region := by
        intro other others
        exact Option.some.inj (others.2.symm.trans found)
      have cuts : progress.consume? regions c = none ↔
          Text.dropBytes? (Text.byteSize region.opening.reverse) (c :: progress.bare) = none := by
        rw [consume?_opens opens, enter?, Option.bind_eq_bind, Option.bind_eq_none_iff]
        constructor
        · intro failed
          rw [Option.eq_none_iff_forall_ne_some]
          intro bare dropped
          have entered := failed bare dropped
          split at entered <;> cases entered
        · intro failed bare dropped
          cases failed.symm.trans dropped
      rw [cuts, Option.eq_none_iff_forall_ne_some]
      constructor
      · intro failed
        refine ⟨region, opens, ?_⟩
        rintro ⟨cut, ⟨bare, split⟩, size⟩
        exact failed bare ((dropBytes?_eq_some_iff _ _ _).2 ⟨cut, split.symm, size⟩)
      · rintro ⟨other, others, uncut⟩ bare dropped
        obtain rfl := only other others
        obtain ⟨cut, split, size⟩ := (dropBytes?_eq_some_iff _ _ _).1 dropped
        exact uncut ⟨cut, ⟨bare, split.symm⟩, size⟩

def Knows (regions : List Region) (open? : Option OpenRegion) : Prop :=
  ∀ current, open? = some current → current.region ∈ regions

theorem knows_next? {current : OpenRegion} (known : current.region ∈ regions) :
    Knows regions (current.next? c) := by
  intro later found
  rwa [(OpenRegion.next?_eq_some found).1]

theorem Consumed.knows (consumed : Consumed regions progress c next)
    (known : Knows regions progress.open?) : Knows regions next.open? := by
  cases consumed with
  | comment current inside isComment => exact knows_next? (known current inside)
  | literal current inside isLiteral => exact knows_next? (known current inside)
  | code outside unopened => exact known
  | opensComment region opens isComment cut bare split size =>
    intro current found
    obtain rfl := Option.some.inj found
    exact opens.mem
  | opensLiteral region opens isLiteral cut bare split size =>
    intro current found
    obtain rfl := Option.some.inj found
    exact opens.mem

theorem knows_of_foldlM {text : List Char} (known : Knows regions progress.open?)
    (consumed : text.foldlM (consume? regions) progress = some next) :
    Knows regions next.open? := by
  induction text generalizing progress with
  | nil =>
    obtain rfl := Option.some.inj consumed
    exact known
  | cons c rest ih =>
    obtain ⟨middle, first, others⟩ := Option.bind_eq_some_iff.1 consumed
    exact ih ((consumed_of_consume? first).knows known) others

end LineProgress

end CodeMetrics
