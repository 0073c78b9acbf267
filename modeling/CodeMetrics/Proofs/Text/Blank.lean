import CodeMetrics.Text.Basic
import Mathlib.Data.List.DropRight

/-!
White space: its code points, and trimming. A text is its trimmed text between two margins of white
space, and margins make no difference to what trimming leaves.
-/

namespace CodeMetrics

def blankCodes : List Nat :=
  [9, 10, 11, 12, 13, 0x20, 0x85, 0xA0, 0x1680, 0x2000, 0x2001, 0x2002, 0x2003, 0x2004, 0x2005,
    0x2006, 0x2007, 0x2008, 0x2009, 0x200A, 0x2028, 0x2029, 0x202F, 0x205F, 0x3000]

/-- What holds for each code point of white space holds for every blank character. -/
theorem of_isBlank {motive : Char → Prop} (all : ∀ code ∈ blankCodes, motive (Char.ofNat code))
    {c : Char} (blank : Text.isBlank c = true) : motive c := by
  have listed : c.toNat ∈ blankCodes := by
    simp only [Text.isBlank, Bool.or_eq_true, Bool.and_eq_true, decide_eq_true_eq,
      beq_iff_eq] at blank
    simp only [blankCodes, List.mem_cons, List.not_mem_nil, or_false]
    omega
  rw [← Char.ofNat_toNat c]
  exact all c.toNat listed

namespace Text

def AllBlank (text : List Char) : Prop :=
  ∀ c ∈ text, isBlank c = true

instance (text : List Char) : Decidable (AllBlank text) :=
  List.decidableBAll (fun c => isBlank c = true) text

variable {before after : List Char}

theorem AllBlank.reverse {text : List Char} (blank : AllBlank text) : AllBlank text.reverse :=
  fun c found => blank c (List.mem_reverse.1 found)

theorem trimStart_append (blank : AllBlank before) (text : List Char) :
    trimStart (before ++ text) = trimStart text :=
  List.dropWhile_append_of_pos blank

theorem trimEnd_append (text : List Char) (blank : AllBlank after) :
    trimEnd (text ++ after) = trimEnd text := by
  rw [trimEnd, List.reverse_append, List.dropWhile_append_of_pos blank.reverse, trimEnd]

/-- White space at the front makes no difference to the last character that is left. -/
theorem getLast?_trimEnd_append (blank : AllBlank before) (text : List Char) :
    (trimEnd (before ++ text)).getLast? = (trimEnd text).getLast? := by
  have nothing : before.reverse.dropWhile isBlank = [] := List.dropWhile_eq_nil_iff.2 blank.reverse
  rw [trimEnd, List.reverse_append, List.dropWhile_append, trimEnd]
  split
  next ended => rw [nothing, List.isEmpty_iff.1 ended]
  next more =>
    obtain ⟨c, rest, kept⟩ :=
      List.exists_cons_of_ne_nil fun ended => more (List.isEmpty_iff.2 ended)
    rw [kept, List.getLast?_reverse, List.getLast?_reverse, List.cons_append, List.head?_cons,
      List.head?_cons]

theorem trimStart_eq_nil_iff (text : List Char) : trimStart text = [] ↔ AllBlank text :=
  List.dropWhile_eq_nil_iff

/-- What is left after a margin at the front begins with no white space. -/
theorem exists_trimStart (text : List Char) :
    ∃ before, AllBlank before ∧ text = before ++ trimStart text :=
  ⟨text.takeWhile isBlank, fun _ found => List.mem_takeWhile_imp found,
    List.takeWhile_append_dropWhile.symm⟩

theorem exists_trimEnd (text : List Char) :
    ∃ after, AllBlank after ∧ text = trimEnd text ++ after :=
  ⟨text.rtakeWhile isBlank, fun _ found => List.mem_rtakeWhile_imp found,
    (List.rdropWhile_append_rtakeWhile ..).symm⟩

/-- A text is its trimmed text between two margins. -/
theorem exists_margins (text : List Char) :
    ∃ before after, AllBlank before ∧ AllBlank after ∧ text = before ++ trim text ++ after := by
  obtain ⟨before, blankBefore, front⟩ := exists_trimStart text
  obtain ⟨after, blankAfter, back⟩ := exists_trimEnd (trimStart text)
  refine ⟨before, after, blankBefore, blankAfter, ?_⟩
  rw [trim, List.append_assoc, ← back]
  exact front

theorem trim_eq_nil_iff (text : List Char) : trim text = [] ↔ AllBlank text := by
  constructor
  · intro nothing
    obtain ⟨before, after, blankBefore, blankAfter, split⟩ := exists_margins text
    rw [nothing, List.append_nil] at split
    rw [split]
    exact fun c found => (List.mem_append.1 found).elim (blankBefore c) (blankAfter c)
  · intro blank
    rw [trim, (trimStart_eq_nil_iff text).2 blank]
    rfl

theorem trim_append (text : List Char) (blankBefore : AllBlank before)
    (blankAfter : AllBlank after) : trim (before ++ text ++ after) = trim text := by
  rw [trim, List.append_assoc, trimStart_append blankBefore, trimStart, List.dropWhile_append]
  by_cases blank : AllBlank text
  · have nothing := (trimStart_eq_nil_iff text).2 blank
    rw [trimStart] at nothing
    rw [if_pos (by simp [nothing]), trim, trimStart, nothing, ← trimStart,
      (trimStart_eq_nil_iff after).2 blankAfter]
  · have something : (text.dropWhile isBlank).isEmpty = false := by
      rw [List.isEmpty_eq_false_iff]
      exact fun nothing => blank ((trimStart_eq_nil_iff text).1 nothing)
    rw [something, if_neg Bool.false_ne_true, trimEnd_append _ blankAfter, ← trimStart, trim]

/-! Texts in which something solid, such as a marker, stands at an end. -/

variable {marker : List Char}

theorem trimStart_append_solid (front : List Char) (nonempty : marker ≠ [])
    (solid : ∀ c ∈ marker, isBlank c = false) (rest : List Char) :
    trimStart (front ++ (marker ++ rest)) = trimStart front ++ (marker ++ rest) := by
  obtain ⟨c, others, rfl⟩ := List.exists_cons_of_ne_nil nonempty
  have begins : ¬isBlank c = true := by simp [solid c List.mem_cons_self]
  rw [trimStart, List.dropWhile_append, trimStart]
  split
  next ended => rw [List.isEmpty_iff.1 ended, List.cons_append, List.dropWhile_cons_of_neg begins,
    List.nil_append]
  next => rfl

theorem trimEnd_append_solid (front : List Char) (nonempty : marker ≠ [])
    (solid : ∀ c ∈ marker, isBlank c = false) : trimEnd (front ++ marker) = front ++ marker := by
  apply List.rdropWhile_eq_self_iff.2
  intro _
  rw [List.getLast_append_of_ne_nil _ nonempty, solid _ (List.getLast_mem nonempty)]
  exact Bool.false_ne_true

theorem trim_append_solid (front : List Char) (nonempty : marker ≠ [])
    (solid : ∀ c ∈ marker, isBlank c = false) :
    trim (front ++ marker) = trimStart front ++ marker := by
  have kept := trimStart_append_solid front nonempty solid []
  rw [List.append_nil] at kept
  rw [trim, kept, trimEnd_append_solid _ nonempty solid]

end Text

end CodeMetrics
