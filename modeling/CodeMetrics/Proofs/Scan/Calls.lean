import CodeMetrics.Scan.Scanner

/-!
The calls of a scan. What is recorded of a scan names the parser and the visitors that are called;
here each entry is tied to what the call does: it works on the model and the host that the call
before it left, and what it says is recorded right behind it.
-/

namespace CodeMetrics

def ScanEvent.progress? : ScanEvent → Option ProgressEvent
  | .progress event => some event
  | _ => none

def ScanEvent.isCall : ScanEvent → Bool
  | .initialized _ | .parsed _ | .visited _ _ | .left _ _ | .destroyed _ => true
  | _ => false

def callsOf (events : List ScanEvent) : List ScanEvent :=
  events.filter ScanEvent.isCall

def progressOf (events : List ScanEvent) : List ProgressEvent :=
  events.filterMap ScanEvent.progress?

@[simp] theorem callsOf_append (first second : List ScanEvent) :
    callsOf (first ++ second) = callsOf first ++ callsOf second :=
  List.filter_append ..

@[simp] theorem progressOf_append (first second : List ScanEvent) :
    progressOf (first ++ second) = progressOf first ++ progressOf second :=
  List.filterMap_append

@[simp] theorem callsOf_progress (event : ProgressEvent) (events : List ScanEvent) :
    callsOf (.progress event :: events) = callsOf events :=
  rfl

@[simp] theorem progressOf_progress (event : ProgressEvent) (events : List ScanEvent) :
    progressOf (.progress event :: events) = event :: progressOf events :=
  rfl

@[simp] theorem callsOf_nil : callsOf [] = [] :=
  rfl

@[simp] theorem progressOf_nil : progressOf [] = [] :=
  rfl

theorem callsOf_notes (notes : List String) : callsOf (notes.map ScanEvent.note) = [] := by
  simp [callsOf, ScanEvent.isCall]

theorem progressOf_notes (notes : List String) : progressOf (notes.map ScanEvent.note) = [] := by
  simp [progressOf, ScanEvent.progress?]

theorem callsOf_cons_notes {event : ScanEvent} (isCall : event.isCall = true)
    (notes : List String) : callsOf (event :: notes.map ScanEvent.note) = [event] := by
  rw [callsOf, List.filter_cons_of_pos isCall]
  exact congrArg _ (callsOf_notes notes)

theorem progressOf_cons_notes {event : ScanEvent} (isCall : event.isCall = true)
    (notes : List String) : progressOf (event :: notes.map ScanEvent.note) = [] := by
  have silent : event.progress? = none := by
    cases event <;> first | rfl | cases isCall
  rw [progressOf, List.filterMap_cons_none silent]
  exact progressOf_notes notes

theorem map_mapIdx {α β γ : Type} (change : β → γ) (entry : Nat → α → β) (values : List α) :
    (values.mapIdx entry).map change =
      values.mapIdx fun position value => change (entry position value) := by
  rw [List.mapIdx_eq_zipIdx_map, List.mapIdx_eq_zipIdx_map, List.map_map]
  rfl

structure Call (σ : Type) where
  event : ScanEvent
  hook : Model → σ → VisitResult σ

/-- What calls lead to that are made in turn. Each one gets the model and the host as the one before
it left them; the first one that fails is the last. -/
inductive Called {σ : Type} : List (Call σ) → Model → σ → ScanStep σ → Prop
  | none (model : Model) (host : σ) : Called [] model host { model, host }
  | failed {call : Call σ} {others : List (Call σ)} {model : Model} {host : σ} {error : ModelError}
      (fails : (call.hook model host).failure? = some error) :
      Called (call :: others) model host
        { model := (call.hook model host).model
          host := (call.hook model host).host
          events := call.event :: (call.hook model host).notes.map ScanEvent.note
          failure? := some error }
  | passed {call : Call σ} {others : List (Call σ)} {model : Model} {host : σ} {rest : ScanStep σ}
      (succeeds : (call.hook model host).failure? = Option.none)
      (goesOn : Called others (call.hook model host).model (call.hook model host).host rest) :
      Called (call :: others) model host
        { rest with
          events := call.event :: (call.hook model host).notes.map ScanEvent.note ++ rest.events }

/-- A step makes some calls, up to the one that fails, and reports no progress. -/
structure ScanStep.Makes {σ : Type} (calls : List ScanEvent) (step : ScanStep σ) : Prop where
  upTo : callsOf step.events <+: calls
  whole : step.failure? = none → callsOf step.events = calls
  quiet : progressOf step.events = []

section Called

variable {σ : Type} {calls : List (Call σ)} {model : Model} {host : σ} {step : ScanStep σ}

theorem Called.makes (called : Called calls model host step)
    (areCalls : ∀ call ∈ calls, call.event.isCall = true) :
    step.Makes (calls.map Call.event) := by
  induction called with
  | none => exact ⟨List.prefix_rfl, fun _ => rfl, rfl⟩
  | @failed call others model host error fails =>
    have isCall := areCalls call List.mem_cons_self
    refine ⟨?_, nofun, progressOf_cons_notes isCall _⟩
    rw [callsOf_cons_notes isCall, List.map_cons]
    exact List.cons_prefix_cons.mpr ⟨rfl, List.nil_prefix⟩
  | @passed call others model host rest succeeds goesOn ih =>
    have isCall := areCalls call List.mem_cons_self
    have following := ih fun other member => areCalls other (List.mem_cons_of_mem call member)
    refine ⟨?_, fun finished => ?_, ?_⟩
    · rw [callsOf_append, callsOf_cons_notes isCall]
      exact List.cons_prefix_cons.mpr ⟨rfl, following.upTo⟩
    · rw [callsOf_append, callsOf_cons_notes isCall, following.whole finished]
      rfl
    · rw [progressOf_append, progressOf_cons_notes isCall, following.quiet]
      rfl

/-- Steps of visitors that are run in turn are their calls. -/
theorem called_runAll (calls : List (Call σ)) (model : Model) (host : σ) :
    Called calls model host
      (ScanStep.runAll (calls.map fun call model host =>
        ScanStep.ofVisit call.event (call.hook model host)) model host) := by
  induction calls generalizing model host with
  | nil => exact .none model host
  | cons call others ih =>
    rw [List.map_cons, ScanStep.runAll]
    cases outcome : (call.hook model host).failure? with
    | some error =>
      simp only [ScanStep.andThen, ScanStep.ofVisit, outcome, Option.isSome_some, if_true]
      exact .failed outcome
    | none =>
      simp only [ScanStep.andThen, ScanStep.ofVisit, outcome, Option.isSome_none,
        Bool.false_eq_true, if_false]
      exact .passed outcome (ih _ _)

end Called

namespace Scanner

variable {σ α : Type} (scanner : Scanner σ α)

def initCalls : List (Call σ) :=
  scanner.visitors.mapIdx fun position visitor => ⟨.initialized position, visitor.init⟩

/-- All visitors visit a file in their order, and then leave it in the opposite order. -/
def fileCalls (context : FileContext) (parsed : α) : List (Call σ) :=
  let visits := scanner.visitors.mapIdx fun position visitor =>
    ⟨.visited position context.path, visitor.visit context parsed⟩
  let leaves := scanner.visitors.mapIdx fun position visitor =>
    ⟨.left position context.path, visitor.leave context parsed⟩
  visits ++ leaves.reverse

/-- A visitor hears that the scan is over. The model is out of its reach then. -/
def destroyCall (position : Nat) (visitor : Visitor σ α) : Call σ where
  event := .destroyed position
  hook model host := { model, host := (visitor.destroy host).1, notes := (visitor.destroy host).2 }

def destroyCalls : List (Call σ) :=
  scanner.visitors.mapIdx destroyCall

theorem called_visits (context : FileContext) (parsed : α) (model : Model) (host : σ) :
    Called (scanner.fileCalls context parsed) model host
      (ScanStep.runAll (scanner.visitSteps context parsed) model host) := by
  have steps : scanner.visitSteps context parsed =
      (scanner.fileCalls context parsed).map fun call model host =>
        ScanStep.ofVisit call.event (call.hook model host) := by
    rw [fileCalls, List.map_append, List.map_reverse, map_mapIdx, map_mapIdx]
    rfl
  rw [steps]
  exact called_runAll ..

omit scanner in
theorem called_destroyAll (visitors : List (Nat × Visitor σ α)) (model : Model) (host : σ) :
    Called (visitors.map fun (position, visitor) => destroyCall position visitor) model host
      { model, host := (destroyAll visitors host).1, events := (destroyAll visitors host).2 } := by
  induction visitors generalizing host with
  | nil => exact .none model host
  | cons visitor others ih =>
    exact @Called.passed σ (destroyCall visitor.1 visitor.2) _ model host _ rfl
      (ih (visitor.2.destroy host).1)

theorem isCall_of_mem_fileCalls {context : FileContext} {parsed : α} {call : Call σ}
    (member : call ∈ scanner.fileCalls context parsed) : call.event.isCall = true := by
  rw [fileCalls, List.mem_append, List.mem_reverse] at member
  rcases member with member | member
  all_goals
    obtain ⟨position, _, rfl⟩ := List.mem_mapIdx.mp member
    rfl

end Scanner

end CodeMetrics
