import CodeMetrics.Proofs.Scan.Calls
import Mathlib.Data.List.Basic

/-!
The passage of a scan through its files. What each file meets is told by the files before it alone,
as if nothing ever stopped the scan; the scan follows this course up to the first file that keeps it
from going on.
-/

namespace CodeMetrics

/-- A file of a scan, with the model and the host that it meets. -/
structure Encounter (σ : Type) where
  path : Path
  model : Model
  host : σ

namespace Scanner

variable {σ α : Type} (scanner : Scanner σ α)

def parseFailure? (file : Encounter σ) : Option ParseFailure :=
  match (scanner.parse file.path file.host).1 with
  | .ok _ => none
  | .error failure => some failure

def stepOf (file : Encounter σ) : ScanStep σ :=
  (scanner.scanFile file.path file.model file.host).1

def refusal? (file : Encounter σ) : Option ModelError :=
  (scanner.stepOf file).failure?

/-- The calls that are made for a file: it is parsed, and if it can be, then all visitors visit it
in their order and leave it in the opposite order. -/
def callsFor (file : Encounter σ) : List ScanEvent :=
  .parsed file.path :: match (scanner.parse file.path file.host).1 with
    | .ok _ =>
      (scanner.visitors.mapIdx fun position _ => .visited position file.path) ++
        (scanner.visitors.mapIdx fun position _ => .left position file.path).reverse
    | .error _ => []

/-- What a file leads to, from what it meets. The visitors see it when the model took it in and it
could be parsed. -/
inductive Leads (file : Encounter σ) : ScanStep σ → Prop
  | refused {error : ModelError} {after : Model}
      (refuses : scanner.indexFile file.model file.path = (.error error, after)) :
      Leads file { model := after, host := file.host, failure? := some error }
  | visited {id : EntityId} {indexed : Model} {parsed : α} {after : σ} {step : ScanStep σ}
      (enters : scanner.indexFile file.model file.path = (.ok id, indexed))
      (parses : scanner.parse file.path file.host = (.ok parsed, after))
      (called : Called (scanner.fileCalls ⟨id, file.path⟩ parsed) indexed after step) :
      Leads file { step with events := .parsed file.path :: step.events }
  | remarked {id : EntityId} {indexed marked : Model} {failure : ParseFailure} {after : σ}
      (enters : scanner.indexFile file.model file.path = (.ok id, indexed))
      (fails : scanner.parse file.path file.host = (.error failure, after))
      (remarks : indexed.addRemark id (parseRemark failure) = .ok marked) :
      Leads file
        { model := marked, host := after
          events := [.parsed file.path, .unparsable file.path failure] }
  | unremarked {id : EntityId} {indexed : Model} {failure : ParseFailure} {after : σ}
      {error : ModelError}
      (enters : scanner.indexFile file.model file.path = (.ok id, indexed))
      (fails : scanner.parse file.path file.host = (.error failure, after))
      (refuses : indexed.addRemark id (parseRemark failure) = .error error) :
      Leads file
        { model := indexed, host := after
          events := [.parsed file.path, .unparsable file.path failure], failure? := some error }

theorem leads_stepOf (file : Encounter σ) : scanner.Leads file (scanner.stepOf file) := by
  unfold stepOf scanFile
  rcases entered : scanner.indexFile file.model file.path with ⟨error | id, indexed⟩
  · exact .refused entered
  · rcases read : scanner.parse file.path file.host with ⟨failure | parsed, after⟩
    · cases marked : indexed.addRemark id (parseRemark failure) with
      | ok model =>
        simp only [ScanStep.andThen, recordFailure, marked]
        exact .remarked entered read marked
      | error error =>
        simp only [ScanStep.andThen, recordFailure, marked]
        exact .unremarked entered read marked
    · exact .visited entered read (scanner.called_visits ⟨id, file.path⟩ parsed indexed after)

variable {scanner} in
theorem Leads.makes {file : Encounter σ} {step : ScanStep σ} (leads : scanner.Leads file step) :
    step.Makes (scanner.callsFor file) := by
  unfold callsFor
  cases leads with
  | refused => exact ⟨List.nil_prefix, nofun, rfl⟩
  | visited enters parses called =>
    have makes := called.makes fun _ => scanner.isCall_of_mem_fileCalls
    rw [fileCalls, List.map_append, List.map_reverse, map_mapIdx, map_mapIdx] at makes
    rw [parses]
    refine ⟨?_, fun finished => ?_, makes.quiet⟩
    · exact List.cons_prefix_cons.mpr ⟨rfl, makes.upTo⟩
    · exact congrArg _ (makes.whole finished)
  | remarked enters fails =>
    rw [fails]
    exact ⟨List.prefix_rfl, fun _ => rfl, rfl⟩
  | unremarked enters fails =>
    rw [fails]
    exact ⟨List.prefix_rfl, fun _ => rfl, rfl⟩

/-- A file that the model takes in fails exactly as it fails to parse. -/
theorem scanFile_failure {file : Encounter σ} (accepted : scanner.refusal? file = none) :
    (scanner.scanFile file.path file.model file.host).2 = scanner.parseFailure? file := by
  unfold refusal? stepOf scanFile at accepted
  unfold parseFailure? scanFile
  rcases entered : scanner.indexFile file.model file.path with ⟨error | id, indexed⟩
  · rw [entered] at accepted
    cases accepted
  · rcases scanner.parse file.path file.host with ⟨failure | parsed, after⟩ <;> rfl

/-- The files with what each of them meets when nothing stops the scan. -/
def encounters : List Path → Model → σ → List (Encounter σ)
  | [], _, _ => []
  | path :: others, model, host =>
    let step := scanner.stepOf ⟨path, model, host⟩
    ⟨path, model, host⟩ :: encounters others step.model step.host

theorem map_path_encounters (files : List Path) (model : Model) (host : σ) :
    (scanner.encounters files model host).map Encounter.path = files := by
  induction files generalizing model host with
  | nil => rfl
  | cons path others ih => rw [encounters, List.map_cons, ih]

theorem length_encounters (files : List Path) (model : Model) (host : σ) :
    (scanner.encounters files model host).length = files.length := by
  rw [← List.length_map Encounter.path, map_path_encounters]

theorem encounters_take (files : List Path) (model : Model) (host : σ) (count : Nat) :
    scanner.encounters (files.take count) model host =
      (scanner.encounters files model host).take count := by
  induction files generalizing model host count with
  | nil => cases count <;> rfl
  | cons path others ih =>
    cases count with
    | zero => rfl
    | succ count => rw [List.take_succ_cons, encounters, encounters, List.take_succ_cons, ih]

theorem head_encounters {files : List Path} {model : Model} {host : σ} {file : Encounter σ}
    (found : (scanner.encounters files model host)[0]? = some file) :
    file.model = model ∧ file.host = host := by
  cases files with
  | nil => cases found
  | cons path others =>
    cases found
    exact ⟨rfl, rfl⟩

/-- The scan takes up the file at a position and goes on after it: nobody asked it to stop, the
model refused nothing, and the file did not make the scan give up. -/
def Processes (position : Nat) (file : Encounter σ) : Prop :=
  scanner.isCancelled position file.host = false ∧ scanner.refusal? file = none ∧
    (scanner.failFast = true → scanner.parseFailure? file = none)

def failuresAmong (met : List (Encounter σ)) : List FileFailure :=
  met.filterMap fun file => (scanner.parseFailure? file).map fun failure => ⟨file.path, failure⟩

theorem failuresAmong_cons (file : Encounter σ) (met : List (Encounter σ)) :
    scanner.failuresAmong (file :: met) =
      scanner.failuresAmong [file] ++ scanner.failuresAmong met := by
  rw [failuresAmong, ← List.singleton_append, List.filterMap_append]
  rfl

def Passage.followedBy (first second : Passage σ) : Passage σ :=
  { second with
    events := first.events ++ second.events
    scanned := first.scanned + second.scanned
    errors := first.errors ++ second.errors }

def onePassage (position : Nat) (file : Encounter σ) (ending : Ending) : Passage σ where
  model := (scanner.stepOf file).model
  host := (scanner.stepOf file).host
  events := (scanner.stepOf file).events ++ [.progress (.advanced (position + 1))]
  scanned := 1
  errors := scanner.failuresAmong [file]
  ending := ending

section OneFile

variable {position : Nat} (others : List Path) {file : Encounter σ}

theorem scanFrom_cancelled (asked : scanner.isCancelled position file.host = true) :
    scanner.scanFrom position (file.path :: others) file.model file.host =
      { model := file.model, host := file.host, ending := .cancelled } := by
  rw [scanFrom, if_pos asked]

theorem scanFrom_refused (unasked : scanner.isCancelled position file.host = false)
    {error : ModelError} (refused : scanner.refusal? file = some error) :
    scanner.scanFrom position (file.path :: others) file.model file.host =
      { model := (scanner.stepOf file).model, host := (scanner.stepOf file).host,
        events := (scanner.stepOf file).events, ending := .failed error } := by
  unfold refusal? stepOf at refused
  simp [scanFrom, unasked, refused, stepOf]

theorem scanFrom_stopped (unasked : scanner.isCancelled position file.host = false)
    (accepted : scanner.refusal? file = none) (failFast : scanner.failFast = true)
    (fails : scanner.parseFailure? file ≠ none) :
    scanner.scanFrom position (file.path :: others) file.model file.host =
      scanner.onePassage position file .stopped := by
  obtain ⟨failure, fails⟩ := Option.ne_none_iff_exists'.mp fails
  have failed := (scanner.scanFile_failure accepted).trans fails
  unfold refusal? stepOf at accepted
  simp [scanFrom, unasked, accepted, failed, failFast, onePassage, stepOf, failuresAmong, fails]

theorem scanFrom_processed (processes : scanner.Processes position file) :
    scanner.scanFrom position (file.path :: others) file.model file.host =
      (scanner.onePassage position file .finished).followedBy
        (scanner.scanFrom (position + 1) others (scanner.stepOf file).model
          (scanner.stepOf file).host) := by
  obtain ⟨unasked, accepted, parses⟩ := processes
  have failed := scanner.scanFile_failure accepted
  unfold refusal? stepOf at accepted
  cases outcome : scanner.parseFailure? file with
  | none =>
    simp [scanFrom, unasked, accepted, failed, outcome, failuresAmong, onePassage, stepOf,
      Passage.followedBy, Nat.add_comm]
  | some failure =>
    -- Only a scan that does not give up gets past a file that cannot be parsed.
    have lenient : scanner.failFast = false := by
      by_contra failFast
      rw [parses (by simpa using failFast)] at outcome
      cases outcome
    simp [scanFrom, unasked, accepted, failed, outcome, lenient, failuresAmong, onePassage, stepOf,
      Passage.followedBy, Nat.add_comm]

/-- What a file can lead to. -/
theorem cases_file (position : Nat) (file : Encounter σ) :
    scanner.isCancelled position file.host = true ∨
    (scanner.isCancelled position file.host = false ∧ ∃ error, scanner.refusal? file = some error) ∨
    (scanner.isCancelled position file.host = false ∧ scanner.refusal? file = none ∧
      scanner.failFast = true ∧ scanner.parseFailure? file ≠ none) ∨
    scanner.Processes position file := by
  unfold Processes
  cases scanner.isCancelled position file.host <;> cases scanner.refusal? file <;>
    cases scanner.failFast <;> cases scanner.parseFailure? file <;> simp

theorem finished_cons_iff (position : Nat) (file : Encounter σ) :
    (scanner.scanFrom position (file.path :: others) file.model file.host).ending = .finished ↔
      scanner.Processes position file ∧
        (scanner.scanFrom (position + 1) others (scanner.stepOf file).model
          (scanner.stepOf file).host).ending = .finished := by
  rcases scanner.cases_file position file with
    asked | ⟨unasked, error, refused⟩ | ⟨unasked, accepted, failFast, fails⟩ | processes
  · rw [scanner.scanFrom_cancelled others asked]
    refine iff_of_false nofun fun both => ?_
    rw [both.1.1] at asked
    cases asked
  · rw [scanner.scanFrom_refused others unasked refused]
    refine iff_of_false nofun fun both => ?_
    rw [both.1.2.1] at refused
    cases refused
  · rw [scanner.scanFrom_stopped others unasked accepted failFast fails]
    exact iff_of_false nofun fun both => fails (both.1.2.2 failFast)
  · rw [scanner.scanFrom_processed others processes]
    exact ⟨fun finished => ⟨processes, finished⟩, And.right⟩

end OneFile

/-- A scan finishes exactly when it gets through every file. -/
theorem finished_iff {position : Nat} {files : List Path} {model : Model} {host : σ} :
    (scanner.scanFrom position files model host).ending = .finished ↔
      ∀ later file, (scanner.encounters files model host)[later]? = some file →
        scanner.Processes (position + later) file := by
  induction files generalizing position model host with
  | nil => exact iff_of_true rfl nofun
  | cons path others ih =>
    have first := scanner.finished_cons_iff others position ⟨path, model, host⟩
    rw [ih] at first
    rw [first, encounters]
    constructor
    · intro both later file found
      cases later with
      | zero =>
        cases found
        exact both.1
      | succ later =>
        rw [← Nat.succ_add_eq_add_succ]
        exact both.2 later file found
    · intro all
      refine ⟨all 0 _ rfl, fun later file found => ?_⟩
      rw [Nat.succ_add_eq_add_succ]
      exact all (later + 1) file found

/-- Files are done in turn. Each one meets the model and the host as the one before it left them,
and is reported when it is done. -/
inductive Passes : Nat → List (Encounter σ) → Model → σ → ScanStep σ → Prop
  | none (position : Nat) (model : Model) (host : σ) : Passes position [] model host { model, host }
  | next {position : Nat} {file : Encounter σ} {others : List (Encounter σ)}
      {step rest : ScanStep σ} (leads : scanner.Leads file step)
      (accepted : step.failure? = Option.none)
      (goesOn : Passes (position + 1) others step.model step.host rest) :
      Passes position (file :: others) file.model file.host
        { rest with
          events := step.events ++ .progress (.advanced (position + 1)) :: rest.events }

/-- What remains when nothing was begun after some steps. -/
def atRest (done : ScanStep σ) : ScanStep σ :=
  { model := done.model, host := done.host }

/-- Why a scan that has got through `count` files, from a position on, ends with them. Only a file
that the model refuses is cut off in between. -/
def EndsAfter (position : Nat) (met : List (Encounter σ)) (count : Nat) (done cut : ScanStep σ) :
    Ending → Prop
  | .finished => count = met.length ∧ cut = atRest done
  | .cancelled =>
    cut = atRest done ∧ ∃ file, met[count]? = some file ∧
      scanner.isCancelled (position + count) file.host = true
  | .stopped =>
    cut = atRest done ∧ scanner.failFast = true ∧ ∃ earlier file failure, count = earlier + 1 ∧
      met[earlier]? = some file ∧ scanner.parseFailure? file = some failure ∧
      scanner.failuresAmong (met.take count) = [⟨file.path, failure⟩]
  | .failed error =>
    ∃ file, met[count]? = some file ∧ scanner.refusal? file = some error ∧
      scanner.Leads file cut ∧ cut.failure? = some error

structure Follows (position : Nat) (met : List (Encounter σ)) (model : Model) (host : σ)
    (passage : Passage σ) (done cut : ScanStep σ) : Prop where
  scanned_le : passage.scanned ≤ met.length
  undisturbed : ∀ earlier file, earlier < passage.scanned → met[earlier]? = some file →
    scanner.isCancelled (position + earlier) file.host = false ∧ scanner.refusal? file = none
  errors_eq : passage.errors = scanner.failuresAmong (met.take passage.scanned)
  passes : scanner.Passes position (met.take passage.scanned) model host done
  upNext : ∀ file, met[passage.scanned]? = some file →
    file.model = done.model ∧ file.host = done.host
  model_eq : passage.model = cut.model
  host_eq : passage.host = cut.host
  events_eq : passage.events = done.events ++ cut.events
  endsAfter : scanner.EndsAfter position met passage.scanned done cut passage.ending

variable {scanner} {position : Nat} {file : Encounter σ} {rest : List (Encounter σ)}
  {model : Model} {host : σ} {done cut : ScanStep σ}

theorem Passes.progressOf_events {met : List (Encounter σ)}
    (passes : scanner.Passes position met model host done) :
    progressOf done.events =
      (List.range' (position + 1) met.length).map ProgressEvent.advanced := by
  induction passes with
  | none => rfl
  | next leads accepted goesOn ih =>
    rw [progressOf_append, leads.makes.quiet, progressOf_progress, ih, List.nil_append,
      List.length_cons, List.range'_succ, List.map_cons]

theorem Passes.callsOf_events {met : List (Encounter σ)}
    (passes : scanner.Passes position met model host done) :
    callsOf done.events = met.flatMap scanner.callsFor := by
  induction passes with
  | none => rfl
  | next leads accepted goesOn ih =>
    rw [callsOf_append, leads.makes.whole accepted, callsOf_progress, ih, List.flatMap_cons]

/-- What is cut off makes calls for one file at most, and reports nothing. -/
theorem EndsAfter.quiet {met : List (Encounter σ)} {count : Nat} {ending : Ending}
    (ends : scanner.EndsAfter position met count done cut ending) : progressOf cut.events = [] := by
  cases ending with
  | finished => exact ends.2 ▸ rfl
  | cancelled => exact ends.1 ▸ rfl
  | stopped => exact ends.1 ▸ rfl
  | failed error =>
    obtain ⟨_, -, -, leads, -⟩ := ends
    exact leads.makes.quiet

theorem EndsAfter.cons {count : Nat} {ending : Ending} {earlier : List ScanEvent}
    (ends : scanner.EndsAfter (position + 1) rest count done cut ending)
    (processes : scanner.Processes position file) :
    scanner.EndsAfter position (file :: rest) (count + 1)
      { done with events := earlier ++ done.events } cut ending := by
  cases ending with
  | finished =>
    obtain ⟨rfl, uncut⟩ := ends
    exact ⟨rfl, uncut⟩
  | cancelled =>
    obtain ⟨uncut, other, found, asked⟩ := ends
    rw [Nat.succ_add_eq_add_succ] at asked
    exact ⟨uncut, other, found, asked⟩
  | stopped =>
    obtain ⟨uncut, failFast, earlier, other, failure, rfl, found, fails, only⟩ := ends
    refine ⟨uncut, failFast, earlier + 1, other, failure, rfl, found, fails, ?_⟩
    -- The file before was passed, so it added no failure to the only one there is.
    have none : scanner.failuresAmong [file] = [] := by
      simp [failuresAmong, processes.2.2 failFast]
    rw [List.take_succ_cons, failuresAmong_cons, none, only, List.nil_append]
  | failed error => exact ends

/-- A file that is done comes before the course of the others. -/
theorem Follows.cons {passage : Passage σ}
    (follows : scanner.Follows (position + 1) rest (scanner.stepOf file).model
      (scanner.stepOf file).host passage done cut)
    (processes : scanner.Processes position file) :
    scanner.Follows position (file :: rest) file.model file.host
      ((scanner.onePassage position file .finished).followedBy passage)
      { done with
        events := ((scanner.stepOf file).events ++ [.progress (.advanced (position + 1))]) ++
          done.events } cut := by
  have scanned : ((scanner.onePassage position file .finished).followedBy passage).scanned =
      passage.scanned + 1 := Nat.add_comm 1 passage.scanned
  constructor
  · rw [scanned]
    exact Nat.succ_le_succ follows.scanned_le
  · intro earlier other before found
    cases earlier with
    | zero =>
      cases found
      exact ⟨processes.1, processes.2.1⟩
    | succ earlier =>
      rw [← Nat.succ_add_eq_add_succ]
      rw [scanned] at before
      exact follows.undisturbed earlier other (Nat.lt_of_succ_lt_succ before) found
  · rw [scanned, List.take_succ_cons, failuresAmong_cons, ← follows.errors_eq]
    rfl
  · rw [scanned, List.take_succ_cons, List.append_assoc]
    exact .next (scanner.leads_stepOf file) processes.2.1 follows.passes
  · rw [scanned]
    exact follows.upNext
  · exact follows.model_eq
  · exact follows.host_eq
  · rw [List.append_assoc _ done.events, ← follows.events_eq]
    rfl
  · rw [scanned]
    exact follows.endsAfter.cons processes

variable (scanner)

theorem follows_stopped (unasked : scanner.isCancelled position file.host = false)
    (accepted : scanner.refusal? file = none) (failFast : scanner.failFast = true)
    (fails : scanner.parseFailure? file ≠ none) (others : List Path) :
    let step := scanner.stepOf file
    let done : ScanStep σ :=
      { model := step.model, host := step.host
        events := step.events ++ [.progress (.advanced (position + 1))] }
    scanner.Follows position (file :: scanner.encounters others step.model step.host) file.model
      file.host (scanner.onePassage position file .stopped) done (atRest done) := by
  intro step done
  obtain ⟨failure, fails⟩ := Option.ne_none_iff_exists'.mp fails
  have only : scanner.failuresAmong [file] = [⟨file.path, failure⟩] := by
    simp [failuresAmong, fails]
  constructor
  · exact Nat.succ_le_succ (Nat.zero_le _)
  · intro earlier other before found
    obtain rfl : earlier = 0 := Nat.lt_one_iff.mp before
    cases found
    exact ⟨unasked, accepted⟩
  · rfl
  · exact .next (scanner.leads_stepOf file) accepted (.none (position + 1) step.model step.host)
  · exact fun other found => scanner.head_encounters found
  · rfl
  · rfl
  · exact (List.append_nil _).symm
  · exact ⟨rfl, failFast, 0, file, failure, rfl, rfl, fails, only⟩

theorem scanFrom_follows (position : Nat) (files : List Path) (model : Model) (host : σ) :
    ∃ done cut, scanner.Follows position (scanner.encounters files model host) model host
      (scanner.scanFrom position files model host) done cut := by
  induction files generalizing position model host with
  | nil =>
    exact ⟨_, _, Nat.le_refl _, nofun, rfl, .none position model host, nofun, rfl, rfl, rfl, rfl,
      rfl⟩
  | cons path others ih =>
    rw [encounters]
    rcases scanner.cases_file position ⟨path, model, host⟩ with
      asked | ⟨unasked, error, refused⟩ | ⟨unasked, accepted, failFast, fails⟩ | processes
    · rw [scanner.scanFrom_cancelled others asked]
      refine ⟨_, _, Nat.zero_le _, nofun, rfl, .none position model host, ?_, rfl, rfl, rfl, rfl,
        _, rfl, asked⟩
      rintro file ⟨⟩
      exact ⟨rfl, rfl⟩
    · rw [scanner.scanFrom_refused others unasked refused]
      refine ⟨_, scanner.stepOf ⟨path, model, host⟩, Nat.zero_le _, nofun, rfl,
        .none position model host, ?_, rfl, rfl, rfl, _, rfl, refused,
        scanner.leads_stepOf _, refused⟩
      rintro file ⟨⟩
      exact ⟨rfl, rfl⟩
    · rw [scanner.scanFrom_stopped others unasked accepted failFast fails]
      exact ⟨_, _, scanner.follows_stopped unasked accepted failFast fails others⟩
    · obtain ⟨done, cut, follows⟩ := ih (position + 1) (scanner.stepOf ⟨path, model, host⟩).model
        (scanner.stepOf ⟨path, model, host⟩).host
      rw [scanner.scanFrom_processed others processes]
      exact ⟨_, cut, follows.cons processes⟩

end Scanner

end CodeMetrics
