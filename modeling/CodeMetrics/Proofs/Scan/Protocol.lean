import CodeMetrics.Proofs.Scan.Passage

/-!
The protocol of a scan: what its followers hear, which calls the parser and the visitors get, and
how state, report and error fit together, whatever the parser, the visitors and the flag do.
-/

namespace CodeMetrics.Scanner

def Ending.report : Ending → ProgressEvent
  | .finished => .stopped
  | .cancelled | .stopped | .failed _ => .cancelled

def Ending.state : Ending → ScanState
  | .finished => .completed
  | .cancelled => .cancelled
  | .stopped | .failed _ => .failed

def Ending.aborted : Ending → List ScanEvent
  | .failed error => [.aborted error]
  | _ => []

def Ending.closing (ending : Ending) : List ScanEvent :=
  .progress ending.report :: ending.aborted

def Passage.answer {σ : Type} (passage : Passage σ) (total : Nat) : Except ModelError ScanSummary :=
  let summary (outcome : ScanOutcome) : ScanSummary :=
    { outcome, total, scanned := passage.scanned, errors := passage.errors }
  match passage.ending with
  | .finished => .ok (summary (if passage.errors.isEmpty then .succeeded else .completedWithErrors))
  | .cancelled => .ok (summary .cancelled)
  | .stopped => .ok (summary .failed)
  | .failed error => .error error

theorem progressOf_closing (ending : Ending) : progressOf ending.closing = [ending.report] := by
  cases ending <;> rfl

theorem report_eq_stopped_iff {ending : Ending} :
    ending.report = .stopped ↔ ending = .finished := by
  cases ending <;> simp [Ending.report]

theorem callsOf_closing (ending : Ending) : callsOf ending.closing = [] := by
  cases ending <;> rfl

variable {σ α : Type} (scanner : Scanner σ α)

/-- The visitors get ready in their order, up to the first one that fails. -/
def prepare (model : Model) (host : σ) : ScanStep σ :=
  ScanStep.runAll (scanner.visitors.mapIdx fun position visitor model host =>
    ScanStep.ofVisit (.initialized position) (visitor.init model host)) model host

def dismiss (host : σ) : σ × List ScanEvent :=
  destroyAll (scanner.visitors.mapIdx fun position visitor => (position, visitor)) host

def conclude (start : ScanStep σ) (total : Nat) (passage : Passage σ) : Run σ where
  model := passage.model
  host := (scanner.dismiss passage.host).1
  events := start.events ++ [.progress (.started total)] ++ passage.events ++
    (scanner.dismiss passage.host).2 ++ passage.ending.closing
  state := passage.ending.state
  result := passage.answer total

theorem scan_ready (files : List Path) {model : Model} {host : σ}
    (ready : (scanner.prepare model host).failure? = none) :
    scanner.scan files model host =
      scanner.conclude (scanner.prepare model host) files.length
        (scanner.scanFrom 0 files (scanner.prepare model host).model
          (scanner.prepare model host).host) := by
  unfold scan
  dsimp only
  split
  next error failed => exact absurd (failed.symm.trans ready) nofun
  next =>
    split
    all_goals
      rename_i ended
      rw [conclude, Passage.answer, List.append_assoc (scanner.prepare model host).events]
      simp only [prepare, ended]
      rfl

theorem scan_unready (files : List Path) {model : Model} {host : σ} {error : ModelError}
    (failed : (scanner.prepare model host).failure? = some error) :
    scanner.scan files model host =
      { model := (scanner.prepare model host).model, host := (scanner.prepare model host).host
        events := (scanner.prepare model host).events, state := .failed
        result := .error error } := by
  unfold scan
  dsimp only
  split
  next other alsoFailed =>
    cases alsoFailed.symm.trans failed
    rfl
  next ready => exact absurd (ready.symm.trans failed) nofun

theorem called_prepare (model : Model) (host : σ) :
    Called scanner.initCalls model host (scanner.prepare model host) := by
  have called := called_runAll scanner.initCalls model host
  rw [initCalls, map_mapIdx] at called
  exact called

theorem makes_prepare (model : Model) (host : σ) :
    (scanner.prepare model host).Makes
      (scanner.visitors.mapIdx fun position _ => .initialized position) := by
  have makes := (scanner.called_prepare model host).makes fun call member => by
    obtain ⟨position, _, rfl⟩ := List.mem_mapIdx.mp member
    rfl
  rwa [initCalls, map_mapIdx] at makes

theorem called_dismiss (model : Model) (host : σ) :
    Called scanner.destroyCalls model host
      { model, host := (scanner.dismiss host).1, events := (scanner.dismiss host).2 } := by
  have called := called_destroyAll
    (scanner.visitors.mapIdx fun position visitor => (position, visitor)) model host
  rw [map_mapIdx] at called
  exact called

theorem makes_dismiss (model : Model) (host : σ) :
    ScanStep.Makes (scanner.visitors.mapIdx fun position _ => .destroyed position)
      { model, host := (scanner.dismiss host).1, events := (scanner.dismiss host).2 } := by
  have makes := (scanner.called_dismiss model host).makes fun call member => by
    obtain ⟨position, _, rfl⟩ := List.mem_mapIdx.mp member
    rfl
  rwa [destroyCalls, map_mapIdx] at makes

theorem progressOf_conclude {start : ScanStep σ} (quiet : progressOf start.events = [])
    (total : Nat) (passage : Passage σ) :
    progressOf (scanner.conclude start total passage).events =
      .started total :: progressOf passage.events ++ [passage.ending.report] := by
  have farewell := (scanner.makes_dismiss passage.model passage.host).quiet
  simp [conclude, quiet, farewell, progressOf_closing]

theorem callsOf_conclude (start : ScanStep σ) (total : Nat) (passage : Passage σ) :
    callsOf (scanner.conclude start total passage).events =
      callsOf start.events ++ callsOf passage.events ++
        scanner.visitors.mapIdx fun position _ => .destroyed position := by
  have farewell := (scanner.makes_dismiss passage.model passage.host).whole rfl
  simp [conclude, farewell, callsOf_closing]

/-- The files of a scan with what each of them meets. There are none when a visitor is not ready. -/
def met (files : List Path) (model : Model) (host : σ) : List (Encounter σ) :=
  let start := scanner.prepare model host
  if start.failure?.isSome then [] else scanner.encounters files start.model start.host

theorem met_ready {files : List Path} {model : Model} {host : σ}
    (ready : (scanner.prepare model host).failure? = none) :
    scanner.met files model host =
      scanner.encounters files (scanner.prepare model host).model
        (scanner.prepare model host).host := by
  simp [met, ready]

theorem ready_of_met {files : List Path} {model : Model} {host : σ} {position : Nat}
    {file : Encounter σ} (found : (scanner.met files model host)[position]? = some file) :
    (scanner.prepare model host).failure? = none := by
  by_contra failed
  simp [met, Option.isSome_iff_ne_none.mpr failed] at found

theorem scan_follows (files : List Path) {model : Model} {host : σ}
    (ready : (scanner.prepare model host).failure? = none) :
    let start := scanner.prepare model host
    let met := scanner.met files model host
    ∃ passage done cut,
      scanner.scan files model host = scanner.conclude start files.length passage ∧
      scanner.Follows 0 met start.model start.host passage done cut ∧
      (passage.ending = .finished ↔
        ∀ position file, met[position]? = some file → scanner.Processes position file) := by
  intro start met
  have course : met = scanner.encounters files start.model start.host := scanner.met_ready ready
  have finished := @finished_iff _ _ scanner 0 files start.model start.host
  simp only [Nat.zero_add] at finished
  rw [course]
  obtain ⟨done, cut, follows⟩ := scanner.scanFrom_follows 0 files start.model start.host
  exact ⟨_, done, cut, scanner.scan_ready files ready, follows, finished⟩

/-- A scan whose visitors get ready reports its start, then each of the first `count` files, and
then that it stopped or that it was cancelled. It stops exactly when it gets through every file.
Otherwise it was asked to stop before the next file, or it gave up over the last one, or the model
refused a change for the next one. Each file that is done was parsed and, if that went well, visited
by all visitors and left by them in the opposite order, each of them working on what the one before
it left; every visitor hears once that the scan is over. The model, the host and the record are what
all these calls lead to. -/
theorem scan_follows_protocol (files : List Path) (model : Model) (host : σ)
    (ready : (scanner.prepare model host).failure? = none) :
    let run := scanner.scan files model host
    let met := scanner.met files model host
    let total := files.length
    met.map Encounter.path = files ∧
    ∃ count last aborted, ∃ start done cut farewell : ScanStep σ,
      let errors := scanner.failuresAmong (met.take count)
      count ≤ total ∧
      Called scanner.initCalls model host start ∧ start.failure? = none ∧
      scanner.Passes 0 (met.take count) start.model start.host done ∧
      (∀ file, met[count]? = some file → file.model = done.model ∧ file.host = done.host) ∧
      Called scanner.destroyCalls cut.model cut.host farewell ∧
      run.model = farewell.model ∧ run.host = farewell.host ∧
      run.events = start.events ++ .progress (.started total) :: done.events ++ cut.events ++
        farewell.events ++ .progress last :: aborted ∧
      progressOf run.events =
        .started total :: (List.range' 1 count).map ProgressEvent.advanced ++ [last] ∧
      callsOf run.events =
        (scanner.visitors.mapIdx fun position _ => .initialized position) ++
          (met.take count).flatMap scanner.callsFor ++ callsOf cut.events ++
          (scanner.visitors.mapIdx fun position _ => .destroyed position) ∧
      (∀ position file, position < count → met[position]? = some file →
        scanner.isCancelled position file.host = false ∧ scanner.refusal? file = none) ∧
      (last = .stopped ↔
        ∀ position file, met[position]? = some file → scanner.Processes position file) ∧
      ((last = .stopped ∧ aborted = [] ∧ count = total ∧ cut = atRest done ∧
          run.state = .completed ∧
          run.result = .ok
            { outcome := if errors.isEmpty then .succeeded else .completedWithErrors
              total, scanned := count, errors }) ∨
        (last = .cancelled ∧ aborted = [] ∧ count < total ∧ cut = atRest done ∧
          run.state = .cancelled ∧
          run.result = .ok { outcome := .cancelled, total, scanned := count, errors } ∧
          ∃ file, met[count]? = some file ∧ scanner.isCancelled count file.host = true) ∨
        (last = .cancelled ∧ aborted = [] ∧ scanner.failFast = true ∧ cut = atRest done ∧
          run.state = .failed ∧
          run.result = .ok { outcome := .failed, total, scanned := count, errors } ∧
          ∃ earlier file failure, count = earlier + 1 ∧ met[earlier]? = some file ∧
            scanner.parseFailure? file = some failure ∧ errors = [⟨file.path, failure⟩]) ∨
        (last = .cancelled ∧ count < total ∧ run.state = .failed ∧
          ∃ file error, aborted = [.aborted error] ∧ met[count]? = some file ∧
            scanner.refusal? file = some error ∧ run.result = .error error ∧
            scanner.Leads file cut ∧ cut.failure? = some error ∧
            callsOf cut.events <+: scanner.callsFor file)) := by
  intro run met total
  have course : met = scanner.encounters files _ _ := scanner.met_ready ready
  have sameLength : met.length = total := by rw [course, length_encounters]
  refine ⟨by rw [course, map_path_encounters], ?_⟩
  have starts := scanner.makes_prepare model host
  obtain ⟨passage, done, cut, ran, follows, finished⟩ := scanner.scan_follows files ready
  change run = scanner.conclude _ total passage at ran
  have doneCount : (met.take passage.scanned).length = passage.scanned :=
    List.length_take_of_le follows.scanned_le
  refine ⟨passage.scanned, passage.ending.report, passage.ending.aborted,
    scanner.prepare model host, done, cut, _, ?_, scanner.called_prepare model host, ready,
    follows.passes, follows.upNext, scanner.called_dismiss cut.model cut.host, ?_, ?_, ?_, ?_, ?_,
    ?_, ?_, ?_⟩
  · exact sameLength ▸ follows.scanned_le
  · rw [ran]
    exact follows.model_eq
  · rw [ran, conclude, follows.host_eq]
  · rw [ran, conclude, follows.events_eq, follows.host_eq]
    simp only [Ending.closing, List.append_assoc, List.cons_append, List.nil_append]
  · rw [ran, progressOf_conclude _ starts.quiet, follows.events_eq, progressOf_append,
      follows.passes.progressOf_events, follows.endsAfter.quiet, doneCount, List.append_nil,
      Nat.zero_add]
  · rw [ran, callsOf_conclude, starts.whole ready, follows.events_eq, callsOf_append,
      follows.passes.callsOf_events, ← List.append_assoc]
  · intro position file before found
    simpa using follows.undisturbed position file before found
  · exact report_eq_stopped_iff.trans finished
  · have state : run.state = passage.ending.state := congrArg Run.state ran
    have answer : run.result = passage.answer total := congrArg Run.result ran
    have ends := follows.endsAfter
    have inside : ∀ {count file}, met[count]? = some file → count < total := fun found =>
      sameLength ▸ (List.getElem?_eq_some_iff.mp found).1
    rw [state, answer, Passage.answer, ← follows.errors_eq]
    -- Each way in which the passage ends is one way in which the scan does.
    cases ended : passage.ending with
    | finished =>
      rw [ended] at ends
      obtain ⟨count, uncut⟩ := ends
      exact .inl ⟨rfl, rfl, count.trans sameLength, uncut, rfl, rfl⟩
    | cancelled =>
      rw [ended] at ends
      obtain ⟨uncut, file, found, asked⟩ := ends
      rw [Nat.zero_add] at asked
      exact .inr (.inl ⟨rfl, rfl, inside found, uncut, rfl, rfl, file, found, asked⟩)
    | stopped =>
      rw [ended] at ends
      obtain ⟨uncut, failFast, earlier, file, failure, count, found, fails, only⟩ := ends
      rw [← follows.errors_eq] at only
      exact .inr (.inr (.inl ⟨rfl, rfl, failFast, uncut, rfl, rfl, earlier, file, failure, count,
        found, fails, only⟩))
    | failed error =>
      rw [ended] at ends
      obtain ⟨file, found, refused, leads, failed⟩ := ends
      exact .inr (.inr (.inr ⟨rfl, inside found, rfl, file, error, rfl, found, refused, rfl, leads,
        failed, leads.makes.upTo⟩))

/-- Cannot parse a file that is called `b`, counts the files that it visits, and is asked to stop
before the third file. -/
def sampleScanner : Scanner Nat Unit where
  parse path host :=
    if path.text = "b" then (.error { message := "unclosed" }, host) else (.ok (), host)
  visitors := [{ visit := fun _ _ model host => { model, host := host + 1 } }]
  isCancelled position _ := position == 2

theorem sampleScanner_cancelled :
    let run := sampleScanner.scan [⟨"a"⟩, ⟨"b"⟩, ⟨"c"⟩] (.ofKey "p") 0
    (sampleScanner.prepare (.ofKey "p") 0).failure? = none ∧ run.state = .cancelled ∧
      run.host = 1 ∧ ∃ count errors, count < 3 ∧
        progressOf run.events =
          .started 3 :: (List.range' 1 count).map ProgressEvent.advanced ++ [.cancelled] ∧
        run.result = .ok { outcome := .cancelled, total := 3, scanned := count, errors } := by
  intro run
  have state : run.state = .cancelled := rfl
  obtain ⟨-, count, last, aborted, start, done, cut, farewell, -, -, -, -, -, -, -, -, -, heard, -,
      -, -, ends⟩ :=
    sampleScanner.scan_follows_protocol [⟨"a"⟩, ⟨"b"⟩, ⟨"c"⟩] (.ofKey "p") 0 rfl
  refine ⟨rfl, state, rfl, ?_⟩
  rcases ends with ⟨-, -, -, -, other, -⟩ | ⟨rfl, -, less, -, -, result, -⟩ |
    ⟨-, -, -, -, other, -⟩ | ⟨-, -, other, -⟩
  · cases state.symm.trans other
  · exact ⟨count, _, less, heard, result⟩
  · cases state.symm.trans other
  · cases state.symm.trans other

end CodeMetrics.Scanner
