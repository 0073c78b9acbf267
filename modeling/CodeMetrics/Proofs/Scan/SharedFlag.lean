import CodeMetrics.Proofs.Scan.Interruption

/-!
Flags with several holders, and scans that look at one of them. A flag stands as the last of its
holders put it, whatever is done with other flags, so whoever holds the flag of a scan can cancel
it.
-/

namespace CodeMetrics

inductive FlagCall where
  | addNew
  | share (holder : Nat)
  | put (holder : Nat) (up : Bool)

namespace CancelFlags

def apply (flags : CancelFlags) : FlagCall → CancelFlags
  | .addNew => flags.addNew
  | .share holder => flags.share holder
  | .put holder up => flags.put holder up

def run (flags : CancelFlags) (calls : List FlagCall) : CancelFlags :=
  calls.foldl apply flags

def Shares (flags : CancelFlags) (first second : Nat) : Prop :=
  ∃ flag, flags.held[first]? = some flag ∧ flags.held[second]? = some flag

/-- None of the calls puts the flag of a holder, also not through someone who came to share it
meanwhile. -/
def Untouched (holder : Nat) : CancelFlags → List FlagCall → Prop
  | _, [] => True
  | flags, call :: others =>
    (∀ party up, call = .put party up → ¬flags.Shares party holder) ∧
      Untouched holder (flags.apply call) others

variable {flags : CancelFlags} {holder flag : Nat}

theorem isRaised_eq (holds : flags.held[holder]? = some flag) :
    flags.isRaised holder = flags.raised[flag]?.getD false := by
  rw [isRaised, view, List.getElem?_map, holds]
  rfl

/-- A holder keeps its flag. -/
theorem held_apply (holds : flags.held[holder]? = some flag) (call : FlagCall) :
    (flags.apply call).held[holder]? = some flag := by
  have inside : holder < flags.held.length := (List.getElem?_eq_some_iff.mp holds).1
  cases call with
  | addNew => exact (List.getElem?_append_left inside).trans holds
  | share other =>
    rw [apply, share]
    split
    next => exact (List.getElem?_append_left inside).trans holds
    next => exact holds
  | put other up =>
    rw [apply, put]
    split <;> exact holds

theorem shares_share (holds : flags.held[holder]? = some flag) :
    (flags.share holder).Shares holder flags.held.length := by
  refine ⟨flag, held_apply holds (.share holder), ?_⟩
  rw [share]
  split
  next other found =>
    cases found.symm.trans holds
    exact List.getElem?_concat_length
  next missing => cases missing.symm.trans holds

theorem isRaised_apply (holds : flags.held[holder]? = some flag) {call : FlagCall}
    (untouched : ∀ party up, call = .put party up → ¬flags.Shares party holder) :
    (flags.apply call).isRaised holder = flags.isRaised holder := by
  have inside : flag < flags.raised.length := flags.inside flag (List.mem_of_getElem? holds)
  rw [isRaised_eq (held_apply holds call), isRaised_eq holds]
  cases call with
  | addNew =>
    have same : (flags.raised ++ [false])[flag]? = flags.raised[flag]? :=
      List.getElem?_append_left inside
    rw [apply, addNew, same]
  | share other =>
    rw [apply, share]
    split <;> rfl
  | put party up =>
    rw [apply, put]
    split
    next other heldBy =>
      -- Whoever puts this very flag shares it.
      have elsewhere : other ≠ flag := by
        rintro rfl
        exact untouched party up rfl ⟨other, heldBy, holds⟩
      rw [List.getElem?_set_ne elsewhere]
    next => rfl

theorem isRaised_put {party : Nat} (shares : flags.Shares party holder) (up : Bool) :
    (flags.put party up).isRaised holder = up := by
  obtain ⟨flag, heldBy, holds⟩ := shares
  have inside : flag < flags.raised.length := flags.inside flag (List.mem_of_getElem? holds)
  have keeps : (flags.put party up).held[holder]? = some flag := held_apply holds (.put party up)
  rw [isRaised_eq keeps, put, heldBy]
  dsimp only
  rw [List.getElem?_set_self inside]
  rfl

theorem isRaised_run {calls : List FlagCall} (holds : flags.held[holder]? = some flag)
    (untouched : Untouched holder flags calls) :
    (flags.run calls).isRaised holder = flags.isRaised holder := by
  induction calls generalizing flags with
  | nil => rfl
  | cons call others ih =>
    obtain ⟨first, rest⟩ := untouched
    exact (ih (held_apply holds call) rest).trans (isRaised_apply holds first)

/-- A flag stands as the last of its holders put it. -/
theorem isRaised_last_put {party : Nat} {up : Bool} {calls : List FlagCall}
    (shares : flags.Shares party holder) (untouched : Untouched holder (flags.put party up) calls) :
    ((flags.put party up).run calls).isRaised holder = up := by
  obtain ⟨flag, heldBy, holds⟩ := shares
  have keeps : (flags.put party up).held[holder]? = some flag := held_apply holds (.put party up)
  rw [isRaised_run keeps untouched]
  exact isRaised_put ⟨flag, heldBy, holds⟩ up

end CancelFlags

namespace Scanner

variable {σ α : Type}

/-- Once a holder of its flag has raised it, and as long as no other one lowers it, a scan is
cancelled before the file that it comes to next, with the work of the complete scan of the files
before. -/
theorem scan_watching_cancelled (scanner : Scanner σ α) (flagsAt : Nat → σ → CancelFlags)
    (holder : Nat) {files : List Path} {model : Model} {host : σ} {position : Nat}
    {file : Encounter σ} {flags : CancelFlags} {party : Nat} {calls : List FlagCall}
    (shares : flags.Shares party holder)
    (untouched : CancelFlags.Untouched holder (flags.put party true) calls)
    (stand : flagsAt position file.host = (flags.put party true).run calls) :
    let watcher := scanner.watching flagsAt holder
    let met := watcher.met files model host
    met[position]? = some file → watcher.GetsTo 0 met position →
      (watcher.scan files model host).state = .cancelled ∧
        SameWork (watcher.scan files model host)
          (watcher.uncancelled.scan (files.take position) model host) := by
  intro watcher met found gets
  have raised : watcher.isCancelled position file.host = true := by
    change (flagsAt position file.host).isRaised holder = true
    rw [stand]
    exact CancelFlags.isRaised_last_put shares untouched
  obtain ⟨-, cancelled, -, sameWork⟩ := watcher.scan_asked ⟨gets, file, found, raised⟩
  exact ⟨cancelled, sameWork⟩

end Scanner

end CodeMetrics
