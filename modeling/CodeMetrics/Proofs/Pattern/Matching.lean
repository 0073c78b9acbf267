import CodeMetrics.Pattern.Basic
import Mathlib.Data.List.Basic

/-!
What a pattern matches. The matcher tries its ways in an order of preference and hands each of them
a continuation. Apart from the preference, that is a relation between the places where a match can
begin and end, which is defined here on the pattern alone. There is a match at a place just when the
relation leads somewhere from it: repetitions are bounded by the length of the text, and the bound
never cuts off a match.
-/

namespace CodeMetrics.Pattern

def Repeats (step : Cursor → Cursor → Prop) : Nat → Cursor → Cursor → Prop
  | 0, cursor, last => last = cursor
  | count + 1, cursor, last => ∃ middle, step cursor middle ∧ Repeats step count middle last

/-- Where a match of a pattern can begin and end. -/
def Matches : Pattern → Cursor → Cursor → Prop
  | .empty, cursor, last => last = cursor
  | .one accepts, cursor, last =>
    ∃ c rest, cursor.rest = c :: rest ∧ accepts c = true ∧ last = ⟨some c, rest⟩
  | .start, cursor, last => cursor.before? = none ∧ last = cursor
  | .stop, cursor, last => cursor.rest = [] ∧ last = cursor
  | .boundary present, cursor, last => cursor.atBoundary = present ∧ last = cursor
  | .chain first second, cursor, last =>
    ∃ middle, first.Matches cursor middle ∧ second.Matches middle last
  | .either first second, cursor, last => first.Matches cursor last ∨ second.Matches cursor last
  | .times body least most? _, cursor, last =>
    ∃ count, least ≤ count ∧ (∀ most, most? = some most → count ≤ max least most) ∧
      Repeats body.Matches count cursor last

/-! Steps go forwards. -/

def Cursor.Onward (cursor last : Cursor) : Prop :=
  last = cursor ∨ last.rest.length < cursor.rest.length

theorem Cursor.Onward.trans {cursor middle last : Cursor} (first : cursor.Onward middle)
    (second : middle.Onward last) : cursor.Onward last := by
  rcases first with rfl | shorter
  · exact second
  · rcases second with rfl | further
    · exact .inr shorter
    · exact .inr (Nat.lt_trans further shorter)

def Advances (step : Cursor → Cursor → Prop) : Prop :=
  ∀ cursor last, step cursor last → cursor.Onward last

variable {step : Cursor → Cursor → Prop}

theorem Advances.repeats (advances : Advances step) (count : Nat) :
    Advances (Repeats step count) := by
  intro cursor last
  induction count generalizing cursor with
  | zero => exact .inl
  | succ count ih =>
    rintro ⟨middle, first, others⟩
    exact (advances cursor middle first).trans (ih middle others)

theorem advances_matches (pattern : Pattern) : Advances pattern.Matches := by
  induction pattern with
  | empty => exact fun _ _ => .inl
  | one accepts =>
    rintro cursor last ⟨c, rest, read, _, rfl⟩
    exact .inr (by simp [read])
  | start => exact fun _ _ found => .inl found.2
  | stop => exact fun _ _ found => .inl found.2
  | boundary present => exact fun _ _ found => .inl found.2
  | chain first second ihFirst ihSecond =>
    rintro cursor last ⟨middle, before, after⟩
    exact (ihFirst cursor middle before).trans (ihSecond middle last after)
  | either first second ihFirst ihSecond =>
    rintro cursor last (found | found)
    · exact ihFirst cursor last found
    · exact ihSecond cursor last found
  | times body least most? greedy ih =>
    rintro cursor last ⟨count, _, _, found⟩
    exact ih.repeats count cursor last found

theorem repeats_add (first second : Nat) (cursor last : Cursor) :
    Repeats step (first + second) cursor last ↔
      ∃ middle, Repeats step first cursor middle ∧ Repeats step second middle last := by
  induction first generalizing cursor with
  | zero => simp [Repeats]
  | succ first ih =>
    rw [Nat.succ_add]
    simp only [Repeats, ih]
    constructor
    · rintro ⟨next, taken, middle, before, after⟩
      exact ⟨middle, ⟨next, taken, before⟩, after⟩
    · rintro ⟨middle, ⟨next, taken, before⟩, after⟩
      exact ⟨next, taken, middle, before, after⟩

/-- Steps that stay where they are can be left out, so there are enough characters for the rest. -/
theorem Advances.exists_repeats_le (advances : Advances step) {count : Nat} {cursor last : Cursor}
    (found : Repeats step count cursor last) :
    ∃ fewer ≤ cursor.rest.length, Repeats step fewer cursor last := by
  induction count generalizing cursor with
  | zero => exact ⟨0, Nat.zero_le _, found⟩
  | succ count ih =>
    obtain ⟨middle, first, others⟩ := found
    obtain ⟨fewer, bound, remaining⟩ := ih others
    rcases advances cursor middle first with rfl | shorter
    · exact ⟨fewer, bound, remaining⟩
    · exact ⟨fewer + 1, by omega, middle, first, remaining⟩

/-! The matcher finds a match where there is one. -/

/-- A way of matching succeeds just where a step leads to a place at which its continuation does. -/
def Finds (attempt : Continuation → Continuation) (step : Cursor → Cursor → Prop) : Prop :=
  ∀ next cursor, (attempt next cursor).isSome ↔
    ∃ reached, step cursor reached ∧ (next reached).isSome

variable {attempt : Continuation → Continuation}

theorem finds_exactly (finds : Finds attempt step) (count : Nat) :
    Finds (exactly attempt count) (Repeats step count) := by
  intro next cursor
  induction count generalizing cursor with
  | zero => simp [exactly, Repeats]
  | succ count ih =>
    rw [exactly, finds]
    simp only [ih, Repeats]
    constructor
    · rintro ⟨middle, first, reached, others, done⟩
      exact ⟨reached, ⟨middle, first, others⟩, done⟩
    · rintro ⟨reached, ⟨middle, first, others⟩, done⟩
      exact ⟨middle, first, reached, others, done⟩

theorem isSome_upTo_succ (attempt : Continuation → Continuation) (greedy : Bool) (count : Nat)
    (next : Continuation) (cursor : Cursor) :
    (upTo attempt greedy (count + 1) next cursor).isSome ↔
      (attempt (fun reached => if reached.rest.length < cursor.rest.length then
        upTo attempt greedy count next reached else next reached) cursor).isSome ∨
      (next cursor).isSome := by
  rw [upTo]
  cases greedy with
  | true => simp
  | false => cases done : next cursor <;> simp [done]

theorem finds_upTo (advances : Advances step) (finds : Finds attempt step) (greedy : Bool)
    (count : Nat) (next : Continuation) (cursor : Cursor) :
    (upTo attempt greedy count next cursor).isSome ↔
      ∃ taken ≤ count, ∃ reached, Repeats step taken cursor reached ∧ (next reached).isSome := by
  induction count generalizing cursor with
  | zero => simp [upTo, Repeats]
  | succ count ih =>
    rw [isSome_upTo_succ, finds]
    constructor
    · rintro (⟨middle, first, done⟩ | done)
      · split at done
        · obtain ⟨taken, bound, reached, others, done⟩ := (ih middle).1 done
          exact ⟨taken + 1, by omega, reached, ⟨middle, first, others⟩, done⟩
        · exact ⟨1, by omega, middle, ⟨middle, first, rfl⟩, done⟩
      · exact ⟨0, by omega, cursor, rfl, done⟩
    · rintro ⟨taken, bound, reached, others, done⟩
      -- Leave out the first steps that stay where they are.
      induction taken with
      | zero =>
        cases others
        exact .inr done
      | succ taken ihTaken =>
        obtain ⟨middle, first, remaining⟩ := others
        rcases advances cursor middle first with rfl | shorter
        · exact ihTaken (by omega) remaining
        · refine .inl ⟨middle, first, ?_⟩
          rw [if_pos shorter]
          exact (ih middle).2 ⟨taken, by omega, reached, remaining, done⟩

theorem finds_run (pattern : Pattern) : Finds pattern.run pattern.Matches := by
  induction pattern with
  | empty => intro next cursor; simp [run, Matches]
  | one accepts =>
    intro next cursor
    rcases cursor with ⟨before?, _ | ⟨c, rest⟩⟩
    · simp [run, Matches]
    · by_cases accepted : accepts c = true
      · simp [run, Matches, accepted]
      · simp [run, Matches, accepted]
  | start =>
    intro next cursor
    cases first : cursor.before? <;> simp [run, Matches, first]
  | stop =>
    intro next cursor
    cases ended : cursor.rest <;> simp [run, Matches, ended]
  | boundary present =>
    intro next cursor
    by_cases same : cursor.atBoundary = present
    · simp [run, Matches, same]
    · simp [run, Matches, same]
  | chain first second ihFirst ihSecond =>
    intro next cursor
    rw [run, ihFirst]
    simp only [ihSecond next, Matches]
    constructor
    · rintro ⟨middle, before, reached, after, done⟩
      exact ⟨reached, ⟨middle, before, after⟩, done⟩
    · rintro ⟨reached, ⟨middle, before, after⟩, done⟩
      exact ⟨middle, before, reached, after, done⟩
  | either first second ihFirst ihSecond =>
    intro next cursor
    have tried : (run (.either first second) next cursor).isSome ↔
        (first.run next cursor).isSome ∨ (second.run next cursor).isSome := by
      cases done : first.run next cursor <;> simp [run, done]
    rw [tried, ihFirst, ihSecond]
    simp only [Matches, or_and_right, exists_or]
  | times body least most? greedy ih =>
    intro next cursor
    rw [run, finds_exactly ih]
    simp only [finds_upTo body.advances_matches ih, Matches]
    constructor
    · rintro ⟨middle, early, taken, bound, reached, late, done⟩
      have found := (repeats_add least taken cursor reached).2 ⟨middle, early, late⟩
      refine ⟨reached, ⟨least + taken, by omega, ?_, found⟩, done⟩
      rintro most rfl
      simp only at bound
      omega
    · rintro ⟨reached, ⟨count, enough, atMost, found⟩, done⟩
      obtain ⟨taken, rfl⟩ := Nat.exists_eq_add_of_le enough
      obtain ⟨middle, early, late⟩ := (repeats_add ..).1 found
      cases most? with
      | none =>
        -- Without a bound there may be more rounds than characters; those that stand still go.
        obtain ⟨fewer, bound, late⟩ := body.advances_matches.exists_repeats_le late
        exact ⟨middle, early, fewer, Nat.le_succ_of_le bound, reached, late, done⟩
      | some most =>
        have bound := atMost most rfl
        exact ⟨middle, early, taken, by simp only; omega, reached, late, done⟩

/-- There is a match at a place just when the pattern leads somewhere from it. -/
theorem isSome_matchAt? (pattern : Pattern) (cursor : Cursor) :
    (pattern.matchAt? cursor).isSome ↔ ∃ reached, pattern.Matches cursor reached := by
  rw [matchAt?, finds_run]
  simp

/-! Patterns of texts. -/

/-- Wherever it is tried, the pattern matches the texts of a set and no others. -/
def Reads (pattern : Pattern) (texts : List Char → Prop) : Prop :=
  ∀ cursor rest, (∃ last, pattern.Matches cursor last ∧ last.rest = rest) ↔
    ∃ text, texts text ∧ cursor.rest = text ++ rest

variable {first second : Pattern} {early late : List Char → Prop}

theorem Reads.chain (readsFirst : Reads first early) (readsSecond : Reads second late) :
    Reads (.chain first second) fun text => ∃ a b, text = a ++ b ∧ early a ∧ late b := by
  intro cursor rest
  constructor
  · rintro ⟨last, ⟨middle, before, after⟩, rfl⟩
    obtain ⟨a, isEarly, read⟩ := (readsFirst cursor middle.rest).1 ⟨middle, before, rfl⟩
    obtain ⟨b, isLate, remaining⟩ := (readsSecond middle last.rest).1 ⟨last, after, rfl⟩
    exact ⟨a ++ b, ⟨a, b, rfl, isEarly, isLate⟩, by rw [read, remaining, List.append_assoc]⟩
  · rintro ⟨_, ⟨a, b, rfl, isEarly, isLate⟩, read⟩
    rw [List.append_assoc] at read
    obtain ⟨middle, before, remaining⟩ := (readsFirst cursor (b ++ rest)).2 ⟨a, isEarly, read⟩
    obtain ⟨last, after, done⟩ := (readsSecond middle rest).2 ⟨b, isLate, remaining⟩
    exact ⟨last, ⟨middle, before, after⟩, done⟩

theorem Reads.either (readsFirst : Reads first early) (readsSecond : Reads second late) :
    Reads (.either first second) fun text => early text ∨ late text := by
  intro cursor rest
  simp only [Matches, or_and_right, exists_or]
  exact or_congr (readsFirst cursor rest) (readsSecond cursor rest)

theorem reads_one (accepts : Char → Bool) :
    Reads (.one accepts) fun text => ∃ c, text = [c] ∧ accepts c = true := by
  intro cursor rest
  constructor
  · rintro ⟨_, ⟨c, others, read, accepted, rfl⟩, rfl⟩
    exact ⟨[c], ⟨c, rfl, accepted⟩, read⟩
  · rintro ⟨_, ⟨c, rfl, accepted⟩, read⟩
    exact ⟨⟨some c, rest⟩, ⟨c, rest, read, accepted, rfl⟩, rfl⟩

theorem reads_literal (word : List Char) : Reads (literal word) (· = word) := by
  match word with
  | [] => intro cursor rest; simp [literal, sequence, Matches, eq_comm]
  | [c] =>
    intro cursor rest
    rw [literal, List.map_singleton, sequence, reads_one]
    simp
  | c :: d :: others =>
    have whole := (reads_one (· == c)).chain (reads_literal (d :: others))
    intro cursor rest
    have unfolded : literal (c :: d :: others) =
        .chain (.one (· == c)) (literal (d :: others)) := rfl
    rw [unfolded, whole]
    simp

/-- Characters of a class, one after another. -/
theorem repeats_one (accepts : Char → Bool) (count : Nat) (cursor : Cursor) (rest : List Char) :
    (∃ last, Repeats (Pattern.one accepts).Matches count cursor last ∧ last.rest = rest) ↔
      ∃ text : List Char, (text.length = count ∧ ∀ c ∈ text, accepts c = true) ∧
        cursor.rest = text ++ rest := by
  induction count generalizing cursor with
  | zero => simp [Repeats, List.length_eq_zero_iff]
  | succ count ih =>
    constructor
    · rintro ⟨last, ⟨_, ⟨c, others, read, accepted, rfl⟩, taken⟩, done⟩
      obtain ⟨text, ⟨size, all⟩, remaining⟩ := (ih _).1 ⟨last, taken, done⟩
      simp only at remaining
      exact ⟨c :: text, ⟨by rw [List.length_cons, size], List.forall_mem_cons.2 ⟨accepted, all⟩⟩,
        by rw [read, remaining, List.cons_append]⟩
    · rintro ⟨text, ⟨size, all⟩, read⟩
      obtain ⟨c, others, rfl⟩ := List.exists_of_length_succ text size
      rw [List.forall_mem_cons] at all
      obtain ⟨last, taken, done⟩ := (ih ⟨some c, others ++ rest⟩).2
        ⟨others, ⟨Nat.succ.inj size, all.2⟩, rfl⟩
      exact ⟨last, ⟨_, ⟨c, others ++ rest, read, all.1, rfl⟩, taken⟩, done⟩

theorem reads_times_one (accepts : Char → Bool) (least : Nat) (greedy : Bool) :
    Reads (.times (.one accepts) least none greedy)
      fun text => least ≤ text.length ∧ ∀ c ∈ text, accepts c = true := by
  intro cursor rest
  constructor
  · rintro ⟨last, ⟨count, enough, _, found⟩, done⟩
    obtain ⟨text, ⟨rfl, all⟩, read⟩ := (repeats_one accepts count cursor rest).1 ⟨last, found, done⟩
    exact ⟨text, ⟨enough, all⟩, read⟩
  · rintro ⟨text, ⟨enough, all⟩, read⟩
    obtain ⟨last, found, done⟩ :=
      (repeats_one accepts text.length cursor rest).2 ⟨text, ⟨rfl, all⟩, read⟩
    have unbounded : ∀ most, none = some most → text.length ≤ max least most := by
      intro most bounded
      cases bounded
    exact ⟨last, ⟨text.length, enough, unbounded, found⟩, done⟩

/-! Patterns that match at the start of the text only. -/

/-- Behind the start of the text there is no further match. -/
theorem countFrom_behind (pattern : Pattern) (skip : Nat) (ended : Bool) (before : Char)
    (text : List Char) : countFrom (.chain .start pattern) skip ended (some before) text = 0 := by
  have fails : ∀ (before : Char) (text : List Char),
      matchAt? (.chain .start pattern) ⟨some before, text⟩ = none := fun _ _ => rfl
  induction text generalizing skip ended before with
  | nil => cases skip <;> simp [countFrom, fails]
  | cons c rest ih => cases skip <;> simp [countFrom, fails, ih]

/-- A pattern that begins with the start of the text matches once or not at all. -/
theorem count_start (pattern : Pattern) (text : List Char) :
    count (.chain .start pattern) text =
      if (pattern.matchAt? ⟨none, text⟩).isSome then 1 else 0 := by
  have same : matchAt? (.chain .start pattern) ⟨none, text⟩ = pattern.matchAt? ⟨none, text⟩ := rfl
  cases text with
  | nil => simp [count, countFrom, same]
  | cons c rest =>
    rw [count, countFrom, same]
    cases pattern.matchAt? ⟨none, c :: rest⟩ with
    | none => exact countFrom_behind pattern 0 false c rest
    | some reached =>
      simp only [countFrom_behind, Option.isSome_some, if_true]
      split <;> rfl

end CodeMetrics.Pattern
