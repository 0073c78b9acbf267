import CodeMetrics.Scan.CancelFlag
import CodeMetrics.Scan.Progress
import CodeMetrics.Scan.Visitor

/-!
Scans: every file in turn becomes an entity of the code model, is parsed, and is shown to the
visitors. Whether a scan shall stop is asked between files only, so a file that was begun is always
finished first. What happens is recorded as a list of events.
-/

namespace CodeMetrics

inductive ScanState where
  | idle
  | scanning
  | completed
  | cancelled
  | failed
  deriving DecidableEq, Repr

def ScanState.name : ScanState → String
  | .idle => "Idle"
  | .scanning => "Scanning"
  | .completed => "Completed"
  | .cancelled => "Cancelled"
  | .failed => "Failed"

inductive ScanOutcome where
  | succeeded
  | completedWithErrors
  | cancelled
  | failed
  deriving DecidableEq, Repr

def ScanOutcome.label : ScanOutcome → String
  | .succeeded => "succeeded"
  | .completedWithErrors => "completed with errors"
  | .cancelled => "cancelled"
  | .failed => "failed"

structure FileFailure where
  path : Path
  failure : ParseFailure
  deriving DecidableEq, Repr

structure ScanSummary where
  outcome : ScanOutcome
  total : Nat
  /-- The files that were taken through the parser, also those that failed there. -/
  scanned : Nat
  errors : List FileFailure
  deriving DecidableEq, Repr

/-- What happens in a scan. Visitors are named by their position. -/
inductive ScanEvent where
  | progress (event : ProgressEvent)
  | initialized (visitor : Nat)
  | parsed (path : Path)
  | visited (visitor : Nat) (path : Path)
  | left (visitor : Nat) (path : Path)
  | destroyed (visitor : Nat)
  | note (text : String)
  | unparsable (path : Path) (failure : ParseFailure)
  | aborted (failure : ModelError)
  deriving DecidableEq, Repr

structure Scanner (σ α : Type) where
  parse : Path → σ → Except ParseFailure α × σ
  visitors : List (Visitor σ α) := []
  /-- Whether the scan shall stop, as it is seen before the file at a position. -/
  isCancelled : Nat → σ → Bool := fun _ _ => false
  filesMetric? : Option Metric := none
  failFast : Bool := false
  groupByDirectory : Bool := false
  state : ScanState := .idle

structure ScanStep (σ : Type) where
  model : Model
  host : σ
  events : List ScanEvent := []
  failure? : Option ModelError := none

namespace ScanStep

def andThen {σ : Type} (step : ScanStep σ) (next : Model → σ → ScanStep σ) : ScanStep σ :=
  if step.failure?.isSome then step
  else
    let following := next step.model step.host
    { following with events := step.events ++ following.events }

def ofVisit {σ : Type} (event : ScanEvent) (result : VisitResult σ) : ScanStep σ where
  model := result.model
  host := result.host
  events := event :: result.notes.map ScanEvent.note
  failure? := result.failure?

def runAll {σ : Type} : List (Model → σ → ScanStep σ) → Model → σ → ScanStep σ
  | [], model, host => { model, host }
  | step :: others, model, host => (step model host).andThen (runAll others)

end ScanStep

def packageKey (directory : Path) : String :=
  "package:" ++ directory.text

namespace Scanner

variable {σ α : Type}

def display (scanner : Scanner σ α) : String :=
  "Scanner \x7b visitors: " ++ toString scanner.visitors.length ++ ", fail_fast: " ++
    toString scanner.failFast ++ ", group_by_directory: " ++ toString scanner.groupByDirectory ++
    ", state: " ++ scanner.state.name ++ " \x7d"

/-- The scanner that looks at the flag of a holder. What is given tells how the flags stand before
the file at a position. -/
def watching (scanner : Scanner σ α) (flags : Nat → σ → CancelFlags) (holder : Nat) :
    Scanner σ α :=
  { scanner with isCancelled := fun position host => (flags position host).isRaised holder }

/-- Frees a key for a file. A file with the key is removed, with all below it; an entity of another
kind keeps the key. -/
def vacate (model : Model) (key : String) : Except ModelError Model :=
  match model.index.find? key with
  | none => .ok model
  | some entity =>
    match entity.id? with
    | some id =>
      if entity.kind = .file then (model.remove id).map Prod.snd else .error (.duplicateKey key)
    | none => .error (.duplicateKey key)

/-- The package of a directory, which becomes a child of the project if it is not one yet. -/
def packageFor (model : Model) (directory : Path) : Except ModelError (EntityId × Model) :=
  let key := packageKey directory
  let package? := (model.index.childrenOf EntityIndex.root).find? fun child =>
    child.kind = .package && child.key = key
  match package?.bind Entity.id? with
  | some id => .ok (id, model)
  | none => model.insert EntityIndex.root { kind := .package, key, name := directory.text }

def parentFor (scanner : Scanner σ α) (model : Model) (path : Path) :
    Except ModelError (EntityId × Model) :=
  match path.parent? with
  | some directory =>
    if scanner.groupByDirectory && directory.text ≠ "" then packageFor model directory
    else .ok (EntityIndex.root, model)
  | none => .ok (EntityIndex.root, model)

/-- Puts a file's entity into the model, in place of one that an earlier scan left. After a failure
the model keeps the steps that were made before it. -/
def indexFile (scanner : Scanner σ α) (model : Model) (path : Path) :
    Except ModelError EntityId × Model :=
  let key := path.text
  match vacate model key with
  | .error failure => (.error failure, model)
  | .ok model =>
    match scanner.parentFor model path with
    | .error failure => (.error failure, model)
    | .ok (parent, model) =>
      match model.insert parent { kind := .file, key, name := path.fileName?.getD key } with
      | .error failure => (.error failure, model)
      | .ok (file, model) =>
        match scanner.filesMetric? with
        | none => (.ok file, model)
        | some metric =>
          match model.setMeasure file metric 1.0 with
          | .error failure => (.error failure, model)
          | .ok model => (.ok file, model)

/-- The steps of visitors on a file, with their positions: all of them visit it in their order, and
then leave it in the opposite order. -/
def visitSteps (scanner : Scanner σ α) (context : FileContext) (parsed : α) :
    List (Model → σ → ScanStep σ) :=
  let visits := scanner.visitors.mapIdx fun position visitor model host =>
    ScanStep.ofVisit (.visited position context.path) (visitor.visit context parsed model host)
  let leaves := scanner.visitors.mapIdx fun position visitor model host =>
    ScanStep.ofVisit (.left position context.path) (visitor.leave context parsed model host)
  visits ++ leaves.reverse

def parseRemark (failure : ParseFailure) : Remark where
  rule := "ParseError"
  text := "Parse error: " ++ failure.message
  line? := failure.line?

def recordFailure (context : FileContext) (failure : ParseFailure) (model : Model) (host : σ) :
    ScanStep σ :=
  let events := [ScanEvent.unparsable context.path failure]
  match model.addRemark context.file (parseRemark failure) with
  | .ok model => { model, host, events }
  | .error error => { model, host, events, failure? := some error }

/-- Scans one file. The second part is the reason why the file could not be parsed, if it could
not. -/
def scanFile (scanner : Scanner σ α) (path : Path) (model : Model) (host : σ) :
    ScanStep σ × Option ParseFailure :=
  match scanner.indexFile model path with
  | (.error error, model) => ({ model, host, failure? := some error }, none)
  | (.ok file, model) =>
    let context : FileContext := ⟨file, path⟩
    let (parsed?, host) := scanner.parse path host
    let parsing : ScanStep σ := { model, host, events := [.parsed path] }
    match parsed? with
    | .ok parsed => (parsing.andThen (ScanStep.runAll (scanner.visitSteps context parsed)), none)
    | .error failure => (parsing.andThen (recordFailure context failure), some failure)

inductive Ending where
  | finished
  | cancelled
  /-- A file could not be parsed, and the scan was to stop at the first such file. -/
  | stopped
  | failed (error : ModelError)
  deriving DecidableEq, Repr

structure Passage (σ : Type) where
  model : Model
  host : σ
  events : List ScanEvent := []
  scanned : Nat := 0
  errors : List FileFailure := []
  ending : Ending

def scanFrom (scanner : Scanner σ α) : Nat → List Path → Model → σ → Passage σ
  | _, [], model, host => { model, host, ending := .finished }
  | position, path :: others, model, host =>
    if scanner.isCancelled position host then { model, host, ending := .cancelled }
    else
      let (step, failure?) := scanner.scanFile path model host
      match step.failure? with
      | some error =>
        { model := step.model, host := step.host, events := step.events, ending := .failed error }
      | none =>
        let events := step.events ++ [.progress (.advanced (position + 1))]
        let errors := failure?.toList.map fun failure => ⟨path, failure⟩
        if failure?.isSome && scanner.failFast then
          { model := step.model, host := step.host, events, scanned := 1, errors,
            ending := .stopped }
        else
          let rest := scanFrom scanner (position + 1) others step.model step.host
          { rest with events := events ++ rest.events, scanned := rest.scanned + 1,
                      errors := errors ++ rest.errors }

def destroyAll : List (Nat × Visitor σ α) → σ → σ × List ScanEvent
  | [], host => (host, [])
  | (position, visitor) :: others, host =>
    let (host, notes) := visitor.destroy host
    let (host, events) := destroyAll others host
    (host, .destroyed position :: notes.map ScanEvent.note ++ events)

structure Run (σ : Type) where
  model : Model
  host : σ
  events : List ScanEvent
  state : ScanState
  result : Except ModelError ScanSummary

def scan (scanner : Scanner σ α) (files : List Path) (model : Model) (host : σ) : Run σ :=
  let inits := scanner.visitors.mapIdx fun position visitor model host =>
    ScanStep.ofVisit (.initialized position) (visitor.init model host)
  let initial := ScanStep.runAll inits model host
  match initial.failure? with
  | some error =>
    { model := initial.model, host := initial.host, events := initial.events, state := .failed,
      result := .error error }
  | none =>
    let passage := scanner.scanFrom 0 files initial.model initial.host
    let (host, farewell) :=
      destroyAll (scanner.visitors.mapIdx fun position visitor => (position, visitor)) passage.host
    let events := initial.events ++ .progress (.started files.length) :: passage.events ++ farewell
    let summary (outcome : ScanOutcome) : ScanSummary :=
      { outcome, total := files.length, scanned := passage.scanned, errors := passage.errors }
    let run (last : ProgressEvent) (state : ScanState) (outcome : ScanOutcome) : Run σ :=
      { model := passage.model, host, events := events ++ [.progress last], state,
        result := .ok (summary outcome) }
    match passage.ending with
    | .failed error =>
      { model := passage.model, host, events := events ++ [.progress .cancelled, .aborted error],
        state := .failed, result := .error error }
    | .stopped => run .cancelled .failed .failed
    | .cancelled => run .cancelled .cancelled .cancelled
    | .finished =>
      run .stopped .completed
        (if passage.errors.isEmpty then .succeeded else .completedWithErrors)

end Scanner

/-- The log lines of a scan's events. Progress is logged only when it is asked for. -/
def scanLog (elapsed : String) (logsProgress : Bool) :
    ProgressLog → List ScanEvent → List LogLine
  | _, [] => []
  | log, event :: others =>
    match event with
    | .progress report =>
      let (log, lines) := log.receive elapsed report
      (if logsProgress then lines else []) ++ scanLog elapsed logsProgress log others
    | .unparsable path failure =>
      ⟨.warn, "Unable to parse file " ++ path.text ++ ": " ++ failure.message⟩ ::
        scanLog elapsed logsProgress log others
    | .aborted error =>
      ⟨.warn, "Scan aborted: " ++ error.message⟩ :: scanLog elapsed logsProgress log others
    | _ => scanLog elapsed logsProgress log others

end CodeMetrics
