import CodeMetrics.Proofs.Scan.Protocol

/-!
Interrupted scans. A scan that is asked to stop, or that gives up, has done exactly the work of a
complete scan of the files that it got through: no file is left half done, and none of the files
behind is touched.
-/

namespace CodeMetrics

def ScanSummary.account (summary : ScanSummary) : List FileFailure × Nat :=
  (summary.errors, summary.scanned)

namespace Scanner

variable {σ α : Type}

/-- Two scans did the same work: they leave the same model and host, made the same calls in the same
order, and count the same files and failures. -/
structure SameWork (first second : Run σ) : Prop where
  model_eq : first.model = second.model
  host_eq : first.host = second.host
  calls_eq : callsOf first.events = callsOf second.events
  account_eq : first.result.map ScanSummary.account = second.result.map ScanSummary.account

variable (scanner : Scanner σ α)

def GetsTo (start : Nat) (met : List (Encounter σ)) (count : Nat) : Prop :=
  ∀ earlier file, earlier < count → met[earlier]? = some file →
    scanner.Processes (start + earlier) file

variable {scanner} in
theorem GetsTo.tail {start count : Nat} {file : Encounter σ} {rest : List (Encounter σ)}
    (gets : scanner.GetsTo start (file :: rest) (count + 1)) :
    scanner.GetsTo (start + 1) rest count := by
  intro earlier other before found
  rw [Nat.succ_add_eq_add_succ]
  exact gets (earlier + 1) other (Nat.succ_lt_succ before) found

/-- A scan that gets to a file: first it finishes the files before it, and then it goes on from
there. -/
theorem scanFrom_split {start count : Nat} {files : List Path} {model : Model} {host : σ}
    {file : Encounter σ} (found : (scanner.encounters files model host)[count]? = some file)
    (gets : scanner.GetsTo start (scanner.encounters files model host) count) :
    let before := scanner.scanFrom start (files.take count) model host
    before.ending = .finished ∧ before.model = file.model ∧ before.host = file.host ∧
      scanner.scanFrom start files model host =
        before.followedBy (scanner.scanFrom (start + count) (file.path :: files.drop (count + 1))
          file.model file.host) := by
  induction files generalizing start count model host with
  | nil => cases found
  | cons path others ih =>
    cases count with
    | zero =>
      cases found
      refine ⟨rfl, rfl, rfl, ?_⟩
      simp [scanFrom, Passage.followedBy]
    | succ count =>
      have processes : scanner.Processes start ⟨path, model, host⟩ :=
        gets 0 _ (Nat.succ_pos count) rfl
      obtain ⟨finished, sameModel, sameHost, split⟩ := ih found gets.tail
      rw [List.take_succ_cons, scanner.scanFrom_processed _ processes,
        scanner.scanFrom_processed _ processes, split, List.drop_succ_cons,
        Nat.succ_add_eq_add_succ]
      refine ⟨finished, sameModel, sameHost, ?_⟩
      simp only [Passage.followedBy, List.append_assoc, Nat.add_assoc]

def adjusted (isCancelled : Nat → σ → Bool) (failFast : Bool) : Scanner σ α :=
  { scanner with isCancelled, failFast }

def uncancelled : Scanner σ α :=
  scanner.adjusted (fun _ _ => false) scanner.failFast

def lenient : Scanner σ α :=
  scanner.adjusted scanner.isCancelled false

variable {scanner} in
theorem Processes.uncancelled {position : Nat} {file : Encounter σ}
    (processes : scanner.Processes position file) : scanner.uncancelled.Processes position file :=
  ⟨rfl, processes.2⟩

variable {scanner} in
theorem Processes.lenient {position : Nat} {file : Encounter σ}
    (processes : scanner.Processes position file) : scanner.lenient.Processes position file :=
  ⟨processes.1, processes.2.1, nofun⟩

section Adjusted

variable {isCancelled : Nat → σ → Bool} {failFast : Bool}

/-- The settings play no part in what a file meets. -/
theorem encounters_adjusted (files : List Path) (model : Model) (host : σ) :
    (scanner.adjusted isCancelled failFast).encounters files model host =
      scanner.encounters files model host := by
  induction files generalizing model host with
  | nil => rfl
  | cons path others ih =>
    rw [encounters, encounters, ih]
    rfl

/-- A scan that finishes does so too when less is asked of its files. -/
theorem scanFrom_adjusted (milder : ∀ position file, scanner.Processes position file →
      (scanner.adjusted isCancelled failFast).Processes position file)
    {start : Nat} {files : List Path} {model : Model} {host : σ}
    (finished : (scanner.scanFrom start files model host).ending = .finished) :
    (scanner.adjusted isCancelled failFast).scanFrom start files model host =
      scanner.scanFrom start files model host := by
  induction files generalizing start model host with
  | nil => rfl
  | cons path others ih =>
    obtain ⟨processes, finished⟩ :=
      (scanner.finished_cons_iff others start ⟨path, model, host⟩).mp finished
    rw [scanner.scanFrom_processed others processes,
      scanFrom_processed _ others (milder _ _ processes), ← ih finished]
    rfl

end Adjusted

/-- Asked to stop before a file, the passage is that through the files before it. -/
theorem scanFrom_asked {count : Nat} {files : List Path} {model : Model} {host : σ}
    {file : Encounter σ} (found : (scanner.encounters files model host)[count]? = some file)
    (gets : scanner.GetsTo 0 (scanner.encounters files model host) count)
    (asked : scanner.isCancelled count file.host = true) :
    let before := scanner.uncancelled.scanFrom 0 (files.take count) model host
    before.ending = .finished ∧
      scanner.scanFrom 0 files model host = { before with ending := .cancelled } := by
  obtain ⟨finished, sameModel, sameHost, split⟩ := scanner.scanFrom_split found gets
  have before : scanner.uncancelled.scanFrom 0 (files.take count) model host =
      scanner.scanFrom 0 (files.take count) model host :=
    scanner.scanFrom_adjusted (fun _ _ => Processes.uncancelled) finished
  rw [Nat.zero_add, scanner.scanFrom_cancelled _ asked, ← sameModel, ← sameHost] at split
  rw [before, split]
  refine ⟨finished, ?_⟩
  simp only [Passage.followedBy, List.append_nil, Nat.add_zero]

/-- A scan that nobody asks to stop at a poll goes as one that does not poll. -/
theorem scanFrom_unasked {start : Nat} {files : List Path} {model : Model} {host : σ}
    (unasked : ∀ count file, (scanner.encounters files model host)[count]? = some file →
      scanner.GetsTo start (scanner.encounters files model host) count →
      scanner.isCancelled (start + count) file.host = false) :
    scanner.uncancelled.scanFrom start files model host =
      scanner.scanFrom start files model host := by
  induction files generalizing start model host with
  | nil => rfl
  | cons path others ih =>
    -- The poll before the first file always takes place.
    have first : scanner.isCancelled start host = false := unasked 0 _ rfl nofun
    rcases scanner.cases_file start ⟨path, model, host⟩ with
      asked | ⟨_, error, refused⟩ | ⟨_, accepted, failFast, fails⟩ | processes
    · rw [first] at asked
      cases asked
    · rw [scanner.scanFrom_refused others first refused]
      exact scanner.uncancelled.scanFrom_refused others rfl refused
    · rw [scanner.scanFrom_stopped others first accepted failFast fails]
      exact scanner.uncancelled.scanFrom_stopped others rfl accepted failFast fails
    · rw [scanner.scanFrom_processed others processes, ← ih,
        scanner.uncancelled.scanFrom_processed others processes.uncancelled]
      · rfl
      · intro count file found gets
        rw [Nat.succ_add_eq_add_succ]
        refine unasked (count + 1) file found fun earlier other before found => ?_
        cases earlier with
        | zero =>
          cases found
          exact processes
        | succ earlier =>
          rw [← Nat.succ_add_eq_add_succ]
          exact gets earlier other (Nat.lt_of_succ_lt_succ before) found

theorem scanFrom_single {position : Nat} {file : Encounter σ}
    (processes : scanner.Processes position file) :
    scanner.scanFrom position [file.path] file.model file.host =
      scanner.onePassage position file .finished := by
  rw [scanner.scanFrom_processed [] processes]
  simp [scanFrom, Passage.followedBy, onePassage]

/-- Giving up over a file, the passage is that through the files up to it. -/
theorem scanFrom_gives_up {count : Nat} {files : List Path} {model : Model} {host : σ}
    {file : Encounter σ} (found : (scanner.encounters files model host)[count]? = some file)
    (gets : scanner.GetsTo 0 (scanner.encounters files model host) count)
    (unasked : scanner.isCancelled count file.host = false)
    (failFast : scanner.failFast = true) (fails : scanner.parseFailure? file ≠ none) :
    let upTo := scanner.lenient.scanFrom 0 (files.take (count + 1)) model host
    scanner.scanFrom 0 files model host = upTo ∨ upTo.ending = .finished ∧
      scanner.scanFrom 0 files model host = { upTo with ending := .stopped } := by
  have prefixed : scanner.lenient.encounters (files.take (count + 1)) model host =
      (scanner.encounters files model host).take (count + 1) :=
    (scanner.encounters_adjusted _ _ _).trans (scanner.encounters_take files model host _)
  have alsoFound :
      (scanner.lenient.encounters (files.take (count + 1)) model host)[count]? = some file := by
    rw [prefixed, List.getElem?_take_of_lt (Nat.lt_succ_self count), found]
  have alsoGets : scanner.lenient.GetsTo 0
      (scanner.lenient.encounters (files.take (count + 1)) model host) count := by
    intro earlier other before found
    rw [prefixed, List.getElem?_take_of_lt (Nat.lt_succ_of_lt before)] at found
    exact (gets earlier other before found).lenient
  -- Both scans get to the file alike, and part there unless the model refuses a change for it.
  obtain ⟨finished, -, -, split⟩ := scanner.scanFrom_split found gets
  obtain ⟨-, -, -, upTo⟩ := scanner.lenient.scanFrom_split alsoFound alsoGets
  have before : scanner.lenient.scanFrom 0 (files.take count) model host =
      scanner.scanFrom 0 (files.take count) model host :=
    scanner.scanFrom_adjusted (fun _ _ => Processes.lenient) finished
  rw [List.take_take, Nat.min_eq_left (Nat.le_succ count), before, List.drop_take_self] at upTo
  rw [Nat.zero_add] at split upTo
  rw [split, upTo]
  cases refused : scanner.refusal? file with
  | some error =>
    left
    rw [scanner.scanFrom_refused _ unasked refused]
    exact congrArg _ (scanner.lenient.scanFrom_refused [] unasked refused).symm
  | none =>
    right
    have processes : scanner.lenient.Processes count file := ⟨unasked, refused, nofun⟩
    rw [scanner.scanFrom_stopped _ unasked refused failFast fails,
      scanner.lenient.scanFrom_single processes]
    exact ⟨rfl, rfl⟩

def Ending.error? : Ending → Option ModelError
  | .failed error => some error
  | _ => none

omit scanner in
theorem map_account_answer (passage : Passage σ) (total : Nat) :
    (passage.answer total).map ScanSummary.account =
      match passage.ending.error? with
      | some error => .error error
      | none => .ok (passage.errors, passage.scanned) := by
  cases ended : passage.ending <;> simp [Passage.answer, ended] <;> rfl

/-- Scans with one beginning do the same work when their passages differ only in how they end. -/
theorem sameWork_conclude (start : ScanStep σ) (total other : Nat) {ending : Ending}
    {passage : Passage σ} (alike : ending.error? = passage.ending.error?) :
    SameWork (scanner.conclude start total { passage with ending })
      (scanner.conclude start other passage) := by
  refine ⟨rfl, rfl, ?_, ?_⟩
  · rw [callsOf_conclude, callsOf_conclude]
  · rw [conclude, conclude, map_account_answer, map_account_answer, alike]

/-- The first poll that sees the flag raised is the one before the file at a position. -/
def AskedAt (met : List (Encounter σ)) (position : Nat) : Prop :=
  scanner.GetsTo 0 met position ∧
    ∃ file, met[position]? = some file ∧ scanner.isCancelled position file.host = true

/-- The first file that is taken up and cannot be parsed is the one at a position, and files before
it did not keep the scan from going on. -/
def FailsAt (met : List (Encounter σ)) (position : Nat) : Prop :=
  scanner.GetsTo 0 met position ∧
    ∃ file, met[position]? = some file ∧ scanner.isCancelled position file.host = false ∧
      scanner.parseFailure? file ≠ none

theorem scan_asked {files : List Path} {model : Model} {host : σ} {position : Nat}
    (asked : scanner.AskedAt (scanner.met files model host) position) :
    let run := scanner.scan files model host
    let complete := scanner.uncancelled.scan (files.take position) model host
    position < files.length ∧ run.state = .cancelled ∧ complete.state = .completed ∧
      SameWork run complete := by
  intro run complete
  obtain ⟨gets, file, found, raised⟩ := asked
  have ready := scanner.ready_of_met found
  rw [scanner.met_ready ready] at gets found
  have inside : position < files.length := by
    rw [← scanner.length_encounters files]
    exact (List.getElem?_eq_some_iff.mp found).1
  obtain ⟨finished, cancelled⟩ := scanner.scanFrom_asked found gets raised
  have ran : run = scanner.conclude _ _ _ := scanner.scan_ready files ready
  have completes : complete = scanner.conclude _ _ _ :=
    scanner.uncancelled.scan_ready (files.take position) ready
  rw [cancelled] at ran
  rw [ran, completes]
  refine ⟨inside, rfl, congrArg Ending.state finished, ?_⟩
  exact scanner.sameWork_conclude _ _ _ (congrArg Ending.error? finished).symm

theorem scan_unasked {files : List Path} {model : Model} {host : σ}
    (unasked : ∀ position, ¬ scanner.AskedAt (scanner.met files model host) position) :
    scanner.scan files model host = scanner.uncancelled.scan files model host := by
  cases ready : (scanner.prepare model host).failure? with
  | some error =>
    rw [scanner.scan_unready files ready]
    exact (scanner.uncancelled.scan_unready files ready).symm
  | none =>
    rw [scanner.met_ready ready] at unasked
    have completes : scanner.uncancelled.scan files model host = scanner.conclude _ _ _ :=
      scanner.uncancelled.scan_ready files ready
    rw [scanner.scan_ready files ready, completes]
    refine congrArg _ (scanner.scanFrom_unasked fun count file found gets => ?_).symm
    rw [Nat.zero_add]
    have notAsked := fun asked => unasked count ⟨gets, file, found, asked⟩
    simpa using notAsked

/-- Nothing is assumed of the flag: each poll sees what it sees, so it may be raised and lowered by
anyone, between files or during one. If the first poll that sees it raised is the one before a file,
then the scan is cancelled, with exactly the work of the complete scan of the files before that one.
If no poll sees it raised, for instance because it is raised during the last file, then the scan goes
as if there were no flag. And a scan that gives up over a file did exactly the work of the scan of
the files up to that one which does not give up. -/
theorem scan_interrupted_sameWork_take (files : List Path) (model : Model) (host : σ) :
    let met := scanner.met files model host
    let run := scanner.scan files model host
    (∀ position, scanner.AskedAt met position →
      let complete := scanner.uncancelled.scan (files.take position) model host
      position < files.length ∧ run.state = .cancelled ∧ complete.state = .completed ∧
        SameWork run complete) ∧
    ((∀ position, ¬ scanner.AskedAt met position) →
      run = scanner.uncancelled.scan files model host) ∧
    (∀ position, scanner.failFast = true → scanner.FailsAt met position →
      SameWork run (scanner.lenient.scan (files.take (position + 1)) model host)) := by
  intro met run
  refine ⟨fun _ => scanner.scan_asked, scanner.scan_unasked, ?_⟩
  intro position failFast fails
  obtain ⟨gets, file, found, unasked, fails⟩ := fails
  have ready := scanner.ready_of_met found
  rw [show met = _ from scanner.met_ready ready] at gets found
  have ran : run = scanner.conclude _ _ _ := scanner.scan_ready files ready
  have completes : scanner.lenient.scan (files.take (position + 1)) model host =
      scanner.conclude _ _ _ := scanner.lenient.scan_ready (files.take (position + 1)) ready
  rw [ran, completes]
  rcases scanner.scanFrom_gives_up found gets unasked failFast fails with
    same | ⟨finished, stopped⟩
  · rw [same]
    exact scanner.sameWork_conclude _ _ _ rfl
  · rw [stopped]
    exact scanner.sameWork_conclude _ _ _ (congrArg Ending.error? finished).symm

theorem sampleScanner_sameWork_two :
    let met := sampleScanner.met [⟨"a"⟩, ⟨"b"⟩, ⟨"c"⟩] (.ofKey "p") 0
    sampleScanner.AskedAt met 2 ∧
      SameWork (sampleScanner.scan [⟨"a"⟩, ⟨"b"⟩, ⟨"c"⟩] (.ofKey "p") 0)
        (sampleScanner.uncancelled.scan [⟨"a"⟩, ⟨"b"⟩] (.ofKey "p") 0) := by
  intro met
  have asked : sampleScanner.AskedAt met 2 := by
    refine ⟨fun earlier file before found => ?_, _, rfl, rfl⟩
    match earlier, before with
    | 0, _ =>
      cases found
      exact ⟨rfl, rfl, nofun⟩
    | 1, _ =>
      cases found
      exact ⟨rfl, rfl, nofun⟩
  obtain ⟨interrupted, -⟩ :=
    sampleScanner.scan_interrupted_sameWork_take [⟨"a"⟩, ⟨"b"⟩, ⟨"c"⟩] (.ofKey "p") 0
  obtain ⟨-, -, -, work⟩ := interrupted 2 asked
  exact ⟨asked, work⟩

end Scanner

end CodeMetrics
