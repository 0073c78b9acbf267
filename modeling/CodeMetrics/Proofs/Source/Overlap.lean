import CodeMetrics.Proofs.Source.Locality

/-!
Markers that overlap a delimiter. A marker is looked for in the text outside of comments, which
keeps the literals, and is then cut by its size off the bare text, which does not. The two texts end
alike unless the marker reaches back into a literal that is over, and then it overlaps the delimiter
that this literal ends with. The invariant gives every character outside of comments a role.
-/

namespace CodeMetrics

/-- Whether a proper beginning of a marker ends alike with a delimiter, so that the marker can be
found where a literal ends and code goes on. -/
def Overlaps (marker delimiter : List Char) : Prop :=
  ∃ length < marker.length, 0 < length ∧
    (marker.take length <:+ delimiter ∨ delimiter <:+ marker.take length)

instance (marker delimiter : List Char) : Decidable (Overlaps marker delimiter) :=
  inferInstanceAs (Decidable (∃ length < marker.length, 0 < length ∧
    (marker.take length <:+ delimiter ∨ delimiter <:+ marker.take length)))

/-- Regions of which no opening marker overlaps the delimiter of a literal. A literal without a
delimiter never opens. -/
def Apart (regions : List Region) : Prop :=
  ∀ region ∈ regions, ∀ other ∈ regions, other.isComment = false → other.opening ≠ [] →
    ¬Overlaps region.opening other.opening

instance (regions : List Region) : Decidable (Apart regions) :=
  inferInstanceAs (Decidable (∀ region ∈ regions, ∀ other ∈ regions, other.isComment = false →
    other.opening ≠ [] → ¬Overlaps region.opening other.opening))

theorem Language.apart_regions (language : Language) : Apart language.regions := by
  cases language <;> decide

/-- A marker that reaches back beyond newer characters into a text that ends with a delimiter. -/
theorem overlaps_of_prefix {marker delimiter newer older text : List Char}
    (split : marker.reverse = newer ++ older) (nonempty : newer ≠ [] ∧ older ≠ [])
    (reaches : older <+: text) (ends : delimiter.reverse <+: text) :
    Overlaps marker delimiter := by
  have whole : marker = older.reverse ++ newer.reverse := by
    rw [← List.reverse_append, ← split, List.reverse_reverse]
  have shorter := List.length_pos_iff.2 nonempty.1
  have longer := List.length_pos_iff.2 nonempty.2
  refine ⟨older.length, ?_, longer, ?_⟩
  · rw [whole, List.length_append, List.length_reverse, List.length_reverse]
    omega
  · have front : marker.take older.length = older.reverse := by
      rw [whole, List.take_left' (List.length_reverse)]
    rw [front, ← List.reverse_prefix, ← List.reverse_prefix, List.reverse_reverse]
    exact List.prefix_or_prefix_of_prefix reaches ends

/-! The roles of the characters outside of comments, newest first. -/

variable {regions : List Region} {tags : List (Char × CharRole)} {c : Char} {region : Region}

theorem charsOf_code (code : ∀ entry ∈ tags, entry.2 = .code) :
    charsOf [.code] tags = tags.map Prod.fst := by
  rw [charsOf, List.filter_eq_self.2]
  intro entry found
  simp [code entry found]

theorem charsOf_literal (text : List Char) :
    charsOf [.code] (text.map fun c => (c, .literal)) = [] := by
  simp [charsOf]

theorem map_fst_literal (text : List Char) :
    (text.map fun c => (c, CharRole.literal)).map Prod.fst = text := by
  rw [List.map_map]
  exact List.map_id text

/-- Characters that are not all code begin with code up to one that is not. -/
theorem exists_last_literal (literal : ¬∀ entry ∈ tags, entry.2 = .code) :
    ∃ newer last older, tags = newer ++ last :: older ∧ (∀ entry ∈ newer, entry.2 = .code) ∧
      last.2 ≠ .code := by
  induction tags with
  | nil => simp at literal
  | cons entry others ih =>
    by_cases first : entry.2 = .code
    · have later : ¬∀ entry ∈ others, entry.2 = .code := fun all =>
        literal (List.forall_mem_cons.2 ⟨first, all⟩)
      obtain ⟨newer, last, older, rfl, code, ends⟩ := ih later
      exact ⟨entry :: newer, last, older, rfl, List.forall_mem_cons.2 ⟨first, code⟩, ends⟩
    · exact ⟨[], entry, others, rfl, by simp, first⟩

/-- Whether the literal that was over last, code apart, ends with the delimiter of one of the
regions. -/
def EndsLiterals (regions : List Region) (tags : List (Char × CharRole)) : Prop :=
  ∀ newer last older, tags = newer ++ last :: older → (∀ entry ∈ newer, entry.2 = .code) →
    last.2 ≠ .code → ∃ other ∈ regions, other.isComment = false ∧ other.opening ≠ [] ∧
      other.opening.reverse <+: (last :: older).map Prod.fst

theorem EndsLiterals.cons_code (ends : EndsLiterals regions tags) (c : Char) :
    EndsLiterals regions ((c, .code) :: tags) := by
  intro newer last older split code literal
  cases newer with
  | nil =>
    obtain ⟨rfl, _⟩ := List.cons_eq_cons.1 split
    exact absurd rfl literal
  | cons entry newer =>
    obtain ⟨_, split⟩ := List.cons_eq_cons.1 split
    exact ends newer last older split (fun entry found => code entry (.tail _ found)) literal

theorem EndsLiterals.drop_code {codes : List (Char × CharRole)}
    (ends : EndsLiterals regions (codes ++ tags)) (code : ∀ entry ∈ codes, entry.2 = .code) :
    EndsLiterals regions tags := by
  intro newer last older split newerCode literal
  refine ends (codes ++ newer) last older (by rw [split, List.append_assoc]) ?_ literal
  intro entry found
  rcases List.mem_append.1 found with early | late
  · exact code entry early
  · exact newerCode entry late

namespace LineProgress

variable {progress next : LineProgress}

/-- The progress of a line whose text outside of comments has these roles. Then the bare text is
what they say is code, a literal that is open is at the end, and one that is over ends with its
delimiter. -/
structure Tagged (regions : List Region) (progress : LineProgress)
    (tags : List (Char × CharRole)) : Prop where
  outside : progress.outside = tags.map Prod.fst
  bare : progress.bare = charsOf [.code] tags
  within : ∀ current, progress.open? = some current → current.region.isComment = false →
    current.region ∈ regions ∧ current.recent <+: progress.outside
  ended : (∀ current, progress.open? = some current → current.region.isComment = true) →
    EndsLiterals regions tags

theorem tagged_start {open? : Option OpenRegion} (carried : CarriesComment regions open?) :
    (LineProgress.start open?).Tagged regions [] where
  outside := rfl
  bare := rfl
  within current inside isLiteral := by
    obtain ⟨_, start, stop, isBlock⟩ := carried current inside
    rw [isBlock] at isLiteral
    cases isLiteral
  ended _ newer last older split := by simp at split

theorem Tagged.outside_cons (tagged : progress.Tagged regions tags) (role : CharRole) :
    c :: progress.outside = ((c, role) :: tags).map Prod.fst := by
  rw [tagged.outside, List.map_cons]

theorem Tagged.endsLiterals (tagged : progress.Tagged regions tags)
    (outside : progress.open? = none) : EndsLiterals regions tags :=
  tagged.ended fun current inside => by cases inside.symm.trans outside

/-- Where the regions are apart, a marker is found in code only. -/
theorem Tagged.exists_marker (tagged : progress.Tagged regions tags) (apart : Apart regions)
    (opens : progress.Opens regions c region) :
    ∃ codes rest, (c, .code) :: tags = codes ++ rest ∧ (∀ entry ∈ codes, entry.2 = .code) ∧
      codes.map Prod.fst = region.opening.reverse := by
  obtain ⟨nonempty, marker⟩ := opens.marker
  rw [tagged.outside_cons .code] at marker
  obtain ⟨later, joined⟩ := marker
  obtain ⟨codes, rest, split, spelled, _⟩ := List.map_eq_append_iff.1 joined.symm
  refine ⟨codes, rest, split, ?_, spelled⟩
  by_contra reaching
  -- The newest character is code, so the marker has code behind the literal that it reaches into.
  obtain ⟨newer, last, older, rfl, code, literal⟩ := exists_last_literal reaching
  cases newer with
  | nil =>
    obtain ⟨rfl, _⟩ := List.cons_eq_cons.1 split
    exact literal rfl
  | cons entry newer =>
    obtain ⟨rfl, tail⟩ := List.cons_eq_cons.1 split
    obtain ⟨other, known, isLiteral, delimited, ends⟩ :=
      tagged.endsLiterals opens.1 newer last (older ++ rest) (by rw [tail]; simp)
        (fun entry found => code entry (.tail _ found)) literal
    refine apart region opens.mem other known isLiteral delimited ?_
    rw [List.map_append] at spelled
    exact overlaps_of_prefix spelled.symm ⟨by simp, by simp⟩ (by simp) ends

theorem Tagged.bare_of_split {codes rest : List (Char × CharRole)}
    (tagged : progress.Tagged regions tags) (split : (c, .code) :: tags = codes ++ rest)
    (code : ∀ entry ∈ codes, entry.2 = .code) :
    c :: progress.bare = codes.map Prod.fst ++ charsOf [.code] rest := by
  have whole : c :: progress.bare = charsOf [.code] ((c, .code) :: tags) := by
    rw [tagged.bare]
    rfl
  rw [whole, split, charsOf_append, charsOf_code code]

/-- What is cut off by the size of a marker is the marker where the text ends with it. -/
theorem cut_unique {marker cut bare rest : List Char} (split : marker ++ rest = cut ++ bare)
    (size : Text.byteSize cut = Text.byteSize marker) : bare = rest := by
  have dropped := (dropBytes?_eq_some_iff _ _ _).2 ⟨cut, split, size⟩
  rw [dropBytes?_append] at dropped
  exact (Option.some.inj dropped).symm

/-- One character keeps the roles, and adds its own. -/
theorem Consumed.exists_tagged (consumed : Consumed regions progress c next)
    (apart : Apart regions) (tagged : progress.Tagged regions tags) :
    ∃ tags, next.Tagged regions tags := by
  cases consumed with
  | comment current inside isComment =>
    have ends := tagged.ended fun other found => by
      obtain rfl := Option.some.inj (inside.symm.trans found)
      exact isComment
    refine ⟨tags, tagged.outside, tagged.bare, ?_, fun _ => ends⟩
    intro later found isLiteral
    rw [(OpenRegion.next?_eq_some found).1, isComment] at isLiteral
    cases isLiteral
  | literal current inside isLiteral =>
    obtain ⟨known, recent⟩ := tagged.within current inside isLiteral
    have grown : c :: current.recent <+: c :: progress.outside :=
      List.cons_prefix_cons.2 ⟨rfl, recent⟩
    refine ⟨(c, .literal) :: tags, tagged.outside_cons .literal, tagged.bare, ?_, ?_⟩
    · intro later found _
      obtain ⟨same, longer⟩ := OpenRegion.next?_eq_some found
      rw [same, longer]
      exact ⟨known, grown⟩
    · -- The literal is over here: what is open next would be the literal itself.
      intro shut newer last older split code literal
      have closes : current.next? c = none := by
        rw [Option.eq_none_iff_forall_ne_some]
        intro later found
        have isComment := shut later found
        rw [(OpenRegion.next?_eq_some found).1, isLiteral] at isComment
        cases isComment
      obtain ⟨delimited, ends⟩ :=
        Region.ends_of_closesAfter isLiteral (OpenRegion.next?_eq_none_iff.1 closes)
      cases newer with
      | cons entry newer =>
        obtain ⟨rfl, _⟩ := List.cons_eq_cons.1 split
        cases code _ List.mem_cons_self
      | nil =>
        rw [List.nil_append] at split
        rw [← split, ← tagged.outside_cons .literal]
        exact ⟨current.region, known, isLiteral, delimited, ends.trans grown⟩
  | code outside unopened =>
    refine ⟨(c, .code) :: tags, tagged.outside_cons .code, ?_, ?_,
      fun _ => (tagged.endsLiterals outside).cons_code c⟩
    · rw [tagged.bare]
      rfl
    · intro current inside
      cases inside.symm.trans outside
  | opensComment region opens isComment cut bare split size =>
    obtain ⟨codes, rest, tags_eq, code, spelled⟩ := tagged.exists_marker apart opens
    refine ⟨rest, ?_, ?_, ?_, fun _ => ?_⟩
    · have length : region.opening.length = codes.length := by
        rw [← List.length_reverse, ← spelled, List.length_map]
      rw [tagged.outside_cons .code, tags_eq, List.map_append, length]
      exact List.drop_left' (List.length_map _)
    · -- What is cut off the bare text by size is the marker, as all of it is code.
      rw [tagged.bare_of_split tags_eq code, spelled] at split
      exact cut_unique split size
    · intro current found isLiteral
      obtain rfl := Option.some.inj found
      cases isComment.symm.trans isLiteral
    · have ends := (tagged.endsLiterals opens.1).cons_code c
      rw [tags_eq] at ends
      exact ends.drop_code code
  | opensLiteral region opens isLiteral cut bare split size =>
    obtain ⟨codes, rest, tags_eq, code, spelled⟩ := tagged.exists_marker apart opens
    refine ⟨region.opening.reverse.map (fun c => (c, .literal)) ++ rest, ?_, ?_, ?_, ?_⟩
    · rw [tagged.outside_cons .code, tags_eq, List.map_append, List.map_append, spelled,
        map_fst_literal]
    · rw [tagged.bare_of_split tags_eq code, spelled] at split
      rw [charsOf_append, charsOf_literal, List.nil_append]
      exact cut_unique split size
    · intro current found _
      obtain rfl := Option.some.inj found
      exact ⟨opens.mem, opens.marker.2⟩
    · intro shut
      cases isLiteral.symm.trans (shut _ rfl)

theorem exists_tagged_of_foldlM {text : List Char} (apart : Apart regions)
    (tagged : progress.Tagged regions tags)
    (consumed : text.foldlM (consume? regions) progress = some next) :
    ∃ tags, next.Tagged regions tags := by
  induction text generalizing progress tags with
  | nil =>
    obtain rfl := Option.some.inj consumed
    exact ⟨tags, tagged⟩
  | cons c rest ih =>
    obtain ⟨middle, first, others⟩ := Option.bind_eq_some_iff.1 consumed
    obtain ⟨middleTags, middleTagged⟩ := (consumed_of_consume? first).exists_tagged apart tagged
    exact ih middleTagged others

/-- Where the regions are apart, the bare text ends with the marker of the region that opens. -/
theorem Tagged.bare_marker (tagged : progress.Tagged regions tags) (apart : Apart regions)
    (opens : progress.Opens regions c region) : region.opening.reverse <+: c :: progress.bare := by
  obtain ⟨codes, rest, split, code, spelled⟩ := tagged.exists_marker apart opens
  rw [tagged.bare_of_split split code, spelled]
  exact List.prefix_append _ _

end LineProgress

end CodeMetrics
