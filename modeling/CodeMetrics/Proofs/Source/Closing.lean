import CodeMetrics.Proofs.Source.Locality
import Mathlib.Data.List.Infix
import Mathlib.Order.WellFounded

/-!
Where a block comment closes: at the earliest closing marker that lies wholly behind the opening
one. The test on what was read compares sizes in bytes and looks at the end of marker and body
together. Since no character is empty, the room for both markers is exactly what keeps them apart,
whatever the two share.
-/

namespace CodeMetrics

/-- Whether a beginning of a text is the shortest one with a property. -/
structure IsFirst (holds : List Char → Prop) (text body : List Char) : Prop where
  begins : body <+: text
  met : holds body
  earliest : ∀ other, other <+: text → holds other → body <+: other

instance (holds : List Char → Prop) [DecidablePred holds] (text body : List Char) :
    Decidable (IsFirst holds text body) :=
  decidable_of_iff
    (body <+: text ∧ holds body ∧ ∀ other ∈ text.inits, holds other → body <+: other)
    ⟨fun first => ⟨first.1, first.2.1,
        fun other begins => first.2.2 other ((List.mem_inits other text).2 begins)⟩,
      fun first => ⟨first.begins, first.met,
        fun other found => first.earliest other ((List.mem_inits other text).1 found)⟩⟩

namespace IsFirst

variable {holds fits : List Char → Prop} {text body : List Char}

theorem of_iff (same : ∀ body, holds body ↔ fits body) (first : IsFirst holds text body) :
    IsFirst fits text body :=
  ⟨first.begins, (same body).1 first.met,
    fun other begins also => first.earliest other begins ((same other).2 also)⟩

theorem exists_of_prefix (begins : body <+: text) (met : holds body) :
    ∃ first, IsFirst holds text first := by
  obtain ⟨first, ⟨starts, kept⟩, shortest⟩ := WellFounded.has_min (measure List.length).wf
    {other | other <+: text ∧ holds other} ⟨body, begins, met⟩
  refine ⟨first, starts, kept, ?_⟩
  intro other early also
  exact List.prefix_of_prefix_length_le starts early (Nat.not_lt.1 (shortest other ⟨early, also⟩))

/-- Nothing shorter has the property. -/
theorem not_of_concat {c : Char} (first : IsFirst holds text (body ++ [c])) {shorter : List Char}
    (begins : shorter <+: body) : ¬holds shorter := by
  intro met
  have short := begins.trans (List.prefix_append body [c])
  have long := (first.earliest shorter (short.trans first.begins) met).length_le
  have fits := begins.length_le
  rw [List.length_append, List.length_singleton] at long
  omega

end IsFirst

/-! Sizes and ends of texts. -/

theorem byteSize_le_of_suffix {ending text : List Char} (ends : ending <:+ text) :
    Text.byteSize ending ≤ Text.byteSize text := by
  obtain ⟨front, rfl⟩ := ends
  rw [byteSize_append]
  exact Nat.le_add_left _ _

/-- Of two ends of a text, the one with the fewer bytes ends the other one. -/
theorem suffix_of_byteSize_le {first second text : List Char} (ends : first <:+ text)
    (also : second <:+ text) (smaller : Text.byteSize first ≤ Text.byteSize second) :
    first <:+ second := by
  rcases List.suffix_or_suffix_of_suffix ends also with inner | outer
  · exact inner
  · obtain ⟨front, rfl⟩ := outer
    -- What the longer one has in front takes no bytes, and every character takes one.
    obtain rfl : front = [] := by
      by_contra nonempty
      have positive := byteSize_pos nonempty
      rw [byteSize_append] at smaller
      omega
    exact List.suffix_rfl

variable {start stop : List Char}

/-- A block comment is closed by a body exactly when the closing marker ends the body. -/
theorem Region.closesAfter_blockComment_iff (nonempty : stop ≠ []) (start body : List Char) :
    (blockComment start stop).closesAfter (start ++ body).reverse = true ↔ stop <:+ body := by
  simp only [closesAfter, Bool.and_eq_true, decide_eq_true_eq, endsWithMarker_iff,
    List.reverse_prefix, byteSize_reverse, byteSize_append, Nat.add_le_add_iff_left]
  constructor
  · rintro ⟨⟨_, ends⟩, room⟩
    exact suffix_of_byteSize_le ends (List.suffix_append start body) room
  · intro ends
    exact ⟨⟨nonempty, ends.trans (List.suffix_append start body)⟩, byteSize_le_of_suffix ends⟩

/-! The classifier inside of a block comment. -/

/-- A block comment that is open after some text was read in it. With nothing read it is the comment
as it opens. -/
def OpenRegion.ofBody (start stop body : List Char) : OpenRegion :=
  ⟨.blockComment start stop, (start ++ body).reverse⟩

def fedLines (texts : List (List Char)) : List Char :=
  texts.flatMap fun text => text ++ ['\n']

variable {progress : LineProgress} {before line text : List Char}

namespace LineProgress

/-- One character more: it closes the comment or belongs to it. -/
theorem step_ofBody (inside : progress.open? = some (.ofBody start stop before))
    (nonempty : stop ≠ []) (regions : List Region) (c : Char) :
    ∃ next, progress.consume? regions c = some next ∧
      (stop <:+ before ++ [c] → next.open? = none) ∧
      (¬stop <:+ before ++ [c] → next.open? = some (.ofBody start stop (before ++ [c]))) := by
  have fed : c :: (start ++ before).reverse = (start ++ (before ++ [c])).reverse := by simp
  have closes := Region.closesAfter_blockComment_iff nonempty start (before ++ [c])
  refine ⟨_, by rw [consume?_inside inside]; rfl, ?_, ?_⟩
  · intro ends
    rw [OpenRegion.next?_eq_none_iff, OpenRegion.ofBody, fed]
    exact closes.2 ends
  · intro stays
    simp only [OpenRegion.next?, OpenRegion.ofBody, fed]
    rw [if_neg fun closed => stays (closes.1 closed)]

/-- A line break belongs to the comment, and is not asked whether it closes it. -/
theorem openAfter_ofBody (inside : progress.open? = some (.ofBody start stop before)) :
    progress.openAfter = some (.ofBody start stop (before ++ ['\n'])) := by
  simp [openAfter, inside, OpenRegion.ofBody, Region.closesAtLineEnd]

/-- As long as no closing marker is complete, the comment stays open. -/
theorem foldlM_ofBody (regions : List Region)
    (inside : progress.open? = some (.ofBody start stop before)) (nonempty : stop ≠ [])
    (unclosed : ∀ body, body <+: before ++ line → ¬stop <:+ body) :
    ∃ next, line.foldlM (consume? regions) progress = some next ∧
      next.open? = some (.ofBody start stop (before ++ line)) := by
  induction line generalizing progress before with
  | nil => exact ⟨progress, rfl, by rwa [List.append_nil]⟩
  | cons c rest ih =>
    obtain ⟨middle, consumed, _, stays⟩ := step_ofBody inside nonempty regions c
    have joined : before ++ c :: rest = before ++ [c] ++ rest := by simp
    rw [joined] at unclosed ⊢
    have still := stays (unclosed (before ++ [c]) (List.prefix_append _ rest))
    obtain ⟨next, others, kept⟩ := ih still unclosed
    exact ⟨next, by rw [List.foldlM_cons, consumed]; exact others, kept⟩

/-- The earliest closing marker closes the comment at its last character. -/
theorem foldlM_first_stop (regions : List Region)
    (inside : progress.open? = some (.ofBody start stop before)) (nonempty : stop ≠ [])
    (more : line ≠ []) (first : IsFirst (stop <:+ ·) text (before ++ line)) :
    ∃ next, line.foldlM (consume? regions) progress = some next ∧ next.open? = none := by
  -- Up to its last character the line completes no marker.
  obtain ⟨rest, c, rfl⟩ := (List.eq_nil_or_concat' line).resolve_left more
  rw [← List.append_assoc] at first
  obtain ⟨middle, read, still⟩ := foldlM_ofBody regions inside nonempty fun _ => first.not_of_concat
  obtain ⟨next, consumed, closed, _⟩ := step_ofBody still nonempty regions c
  refine ⟨next, ?_, closed first.met⟩
  rw [List.foldlM_append, read]
  simpa using consumed

end LineProgress

/-- As long as no closing marker is complete, the comment is carried from line to line. -/
theorem openAfterLines?_ofBody (regions : List Region) (nonempty : stop ≠ [])
    (texts : List (List Char))
    (unclosed : ∀ body, body <+: before ++ fedLines texts → ¬stop <:+ body) :
    openAfterLines? regions (some (.ofBody start stop before)) texts =
      some (some (.ofBody start stop (before ++ fedLines texts))) := by
  induction texts generalizing before with
  | nil =>
    rw [fedLines, List.flatMap_nil, List.append_nil]
    rfl
  | cons text others ih =>
    have joined : before ++ fedLines (text :: others) =
        before ++ text ++ ['\n'] ++ fedLines others := by
      simp [fedLines]
    rw [joined] at unclosed ⊢
    have early : ∀ body, body <+: before ++ text → ¬stop <:+ body := by
      intro body begins
      apply unclosed body
      rw [List.append_assoc (before ++ text)]
      exact begins.trans (List.prefix_append _ _)
    have inside : (LineProgress.start (some (.ofBody start stop before))).open? =
        some (.ofBody start stop before) := rfl
    obtain ⟨next, read, still⟩ := LineProgress.foldlM_ofBody regions inside nonempty early
    have line : openAfterLine? regions (some (.ofBody start stop before)) text =
        some (some (.ofBody start stop (before ++ text ++ ['\n']))) := by
      rw [openAfterLine?, read, Option.map_some, LineProgress.openAfter_ofBody still]
    rw [openAfterLines?, List.foldlM_cons, line]
    exact ih unclosed

/-- Among the beginnings of a text that is read behind the opening marker, the first one that closes
a block comment is the shortest one that ends with the closing marker, and none closes it where none
ends with that marker. Until then the classifier keeps the comment open, over characters and over
line breaks, and it ends it at the character that completes the marker. -/
theorem Region.blockComment_closes_at_first_stop (start : List Char) {stop : List Char}
    (nonempty : stop ≠ []) (text : List Char) :
    (∀ body,
      IsFirst (fun body => (blockComment start stop).closesAfter (start ++ body).reverse = true)
        text body ↔ IsFirst (stop <:+ ·) text body) ∧
    (∀ body, body <+: text → stop <:+ body → ∃ first, IsFirst (stop <:+ ·) text first) ∧
    ((∀ body, body <+: text → ¬stop <:+ body) → ∀ body, body <+: text →
      (blockComment start stop).closesAfter (start ++ body).reverse = false) ∧
    (∀ regions progress before line,
      progress.open? = some (OpenRegion.ofBody start stop before) →
      ((∀ body, body <+: before ++ line → ¬stop <:+ body) →
        ∃ next, line.foldlM (LineProgress.consume? regions) progress = some next ∧
          next.open? = some (.ofBody start stop (before ++ line)) ∧
          next.openAfter = some (.ofBody start stop (before ++ line ++ ['\n']))) ∧
      (line ≠ [] → IsFirst (stop <:+ ·) text (before ++ line) →
        ∃ next, line.foldlM (LineProgress.consume? regions) progress = some next ∧
          next.open? = none)) ∧
    ∀ regions before texts, (∀ body, body <+: before ++ fedLines texts → ¬stop <:+ body) →
      openAfterLines? regions (some (.ofBody start stop before)) texts =
        some (some (.ofBody start stop (before ++ fedLines texts))) := by
  have closes := closesAfter_blockComment_iff nonempty start
  refine ⟨?_, ?_, ?_, ?_, ?_⟩
  · exact fun body => ⟨IsFirst.of_iff closes, IsFirst.of_iff fun body => (closes body).symm⟩
  · exact fun body begins ends => IsFirst.exists_of_prefix begins ends
  · intro unclosed body begins
    rw [← Bool.not_eq_true, closes]
    exact unclosed body begins
  · intro regions progress before line inside
    refine ⟨?_, LineProgress.foldlM_first_stop regions inside nonempty⟩
    intro unclosed
    obtain ⟨next, read, still⟩ := LineProgress.foldlM_ofBody regions inside nonempty unclosed
    exact ⟨next, read, still, LineProgress.openAfter_ofBody still⟩
  · intro regions before texts unclosed
    exact openAfterLines?_ofBody regions nonempty texts unclosed

/-- Markers that overlap: the end of the opening one and one more character would make a closing
one, which is met only behind the line break. -/
theorem Region.overlapping_markers_close_late :
    "-é".toList ≠ [] ∧ "-é".toList <:+ "-é-".toList ++ "é".toList ∧
    IsFirst ("-é".toList <:+ ·) "é\n-é -é".toList "é\n-é".toList ∧
    IsFirst (fun body =>
        (blockComment "-é-".toList "-é".toList).closesAfter ("-é-".toList ++ body).reverse = true)
      "é\n-é -é".toList "é\n-é".toList ∧
    openAfterLines? [] (some (.ofBody "-é-".toList "-é".toList [])) ["é".toList] =
      some (some (.ofBody "-é-".toList "-é".toList "é\n".toList)) ∧
    ∃ next, "-é".toList.foldlM (LineProgress.consume? [])
        (LineProgress.start (some (.ofBody "-é-".toList "-é".toList "é\n".toList))) = some next ∧
      next.open? = none := by
  have nonempty : "-é".toList ≠ [] := by simp
  have first : IsFirst ("-é".toList <:+ ·) "é\n-é -é".toList "é\n-é".toList := by decide
  have unclosed : ∀ body, body <+: fedLines ["é".toList] → ¬"-é".toList <:+ body := by
    intro body begins
    have each : ∀ body ∈ (fedLines ["é".toList]).inits, ¬"-é".toList <:+ body := by decide
    exact each body ((List.mem_inits _ _).2 begins)
  obtain ⟨same, _, _, reads, carries⟩ :=
    blockComment_closes_at_first_stop "-é-".toList nonempty "é\n-é -é".toList
  refine ⟨nonempty, by decide, first, (same _).2 first, carries [] [] ["é".toList] unclosed, ?_⟩
  exact (reads [] (LineProgress.start (some (.ofBody "-é-".toList "-é".toList "é\n".toList)))
    "é\n".toList "-é".toList rfl).2 nonempty first

end CodeMetrics
