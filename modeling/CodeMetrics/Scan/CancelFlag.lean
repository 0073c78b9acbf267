/-!
Flags that ask a scan to stop. A flag may have several holders, and each of them sees what the
others did.
-/

namespace CodeMetrics

/-- The flags that are in use, and for each holder the flag that it holds. -/
structure CancelFlags where
  raised : List Bool := []
  held : List Nat := []
  inside : ∀ flag ∈ held, flag < raised.length := by simp
  deriving DecidableEq, Repr

namespace CancelFlags

def addNew (flags : CancelFlags) : CancelFlags where
  raised := flags.raised ++ [false]
  held := flags.held ++ [flags.raised.length]
  inside := by
    intro flag member
    rw [List.length_append, List.length_singleton]
    rcases List.mem_append.mp member with old | new
    · exact Nat.lt_succ_of_lt (flags.inside flag old)
    · rw [List.mem_singleton.mp new]
      exact Nat.lt_succ_self _

def share (flags : CancelFlags) (holder : Nat) : CancelFlags :=
  match found : flags.held[holder]? with
  | some flag =>
    { flags with
      held := flags.held ++ [flag]
      inside := by
        intro other member
        rcases List.mem_append.mp member with old | new
        · exact flags.inside other old
        · rw [List.mem_singleton.mp new]
          exact flags.inside flag (List.mem_of_getElem? found) }
  | none => flags

def put (flags : CancelFlags) (holder : Nat) (up : Bool) : CancelFlags :=
  match flags.held[holder]? with
  | some flag =>
    { flags with
      raised := flags.raised.set flag up
      inside := fun other member => List.length_set.symm ▸ flags.inside other member }
  | none => flags

def view (flags : CancelFlags) : List Bool :=
  flags.held.map fun flag => flags.raised[flag]?.getD false

def isRaised (flags : CancelFlags) (holder : Nat) : Bool :=
  flags.view[holder]?.getD false

end CancelFlags

end CodeMetrics
