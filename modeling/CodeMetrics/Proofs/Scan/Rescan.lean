import CodeMetrics.Proofs.Scan.Protocol
import CodeMetrics.Proofs.Scan.Survey

/-!
Scans of many files, one after the other. They succeed if and only if no two entities need the same
key, and then the set of paths decides what is in the code model: neither the order of the files nor
their repetition nor how they are split among the scans matters.
-/

namespace CodeMetrics.Survey

variable {survey : Survey} {project : Entity} {paths : Set Path} {path : Path} {model : Model}

/-- Where a model shows what it is to show, no two entities need the same key. -/
theorem Portrays.not_shared (portrays : survey.Portrays project paths model) (name : String) :
    ¬survey.Shared project.key paths name := by
  have unique : ∀ {first second}, survey.Shows project paths first →
      survey.Shows project paths second → first.entity.key = second.entity.key →
      first = second := by
    intro first second showsFirst showsSecond sameKey
    have shown := (portrays.shown second.entity.key first).mpr ⟨showsFirst, sameKey⟩
    rw [(portrays.shown _ _).mpr ⟨showsSecond, rfl⟩] at shown
    exact (Option.some.inj shown).symm
  intro shared
  cases shared with
  | fileAndProject member same =>
    cases congrArg Portrait.parentKey? (unique (.file member) .project same)
  | packageAndProject member lies same =>
    cases congrArg Portrait.parentKey? (unique (.package member lies) .project same)
  | packageAndFile member lies memberFile same =>
    cases congrArg (fun picture => picture.entity.kind)
      (unique (.package member lies) (.file memberFile) same)

theorem Portrays.scanFrom (portrays : survey.Portrays project paths model) (position : Nat)
    (files : List Path) :
    let passage := survey.scanner.scanFrom position files model ()
    (passage.ending = .finished ∧
      survey.Portrays project (paths ∪ {path | path ∈ files}) passage.model) ∨
    ∃ error name, passage.ending = .failed error ∧
      survey.Shared project.key (paths ∪ {path | path ∈ files}) name ∧
      (project.kind ≠ .file → error = .duplicateKey name) := by
  -- A file that fits joins the paths that the model shows; the first one that does not is the end.
  induction files generalizing paths model position with
  | nil =>
    left
    simp only [List.not_mem_nil, Set.ofPred_false, Set.union_empty]
    exact ⟨rfl, portrays⟩
  | cons path others ih =>
    have all : paths ∪ {file | file ∈ path :: others} =
        insert path paths ∪ {file | file ∈ others} := by
      ext file
      simp only [List.mem_cons, Set.mem_union, Set.mem_ofPred_eq, Set.mem_insert_iff]
      tauto
    rw [all]
    by_cases fits : survey.Fits project.key paths path
    · obtain ⟨accepted, shows⟩ := portrays.accepts fits
      have processes : survey.scanner.Processes position ⟨path, model, ()⟩ :=
        ⟨rfl, accepted, nofun⟩
      rw [survey.scanner.scanFrom_processed others processes]
      exact ih shows (position + 1)
    · obtain ⟨error, name, refused, shared, named⟩ := portrays.refuses fits
      right
      refine ⟨error, name, ?_, shared.mono Set.subset_union_left, named⟩
      rw [survey.scanner.scanFrom_refused others rfl refused]

/-- A scan goes through all files, unless two entities need the same key. -/
theorem Portrays.scan (portrays : survey.Portrays project paths model) (files : List Path) :
    let run := survey.scanner.scan files model ()
    (∃ summary, run.result = .ok summary ∧
      survey.Portrays project (paths ∪ {path | path ∈ files}) run.model) ∨
    ∃ error name, run.result = .error error ∧
      survey.Shared project.key (paths ∪ {path | path ∈ files}) name ∧
      (project.kind ≠ .file → error = .duplicateKey name) := by
  have ready : (survey.scanner.prepare model ()).failure? = none := rfl
  rw [survey.scanner.scan_ready files ready]
  rcases portrays.scanFrom 0 files with ⟨ended, shows⟩ | ⟨error, name, ended, shared⟩
  · have answered : ∃ summary, (survey.scanner.scanFrom 0 files model ()).answer files.length =
        .ok summary := by
      unfold Scanner.Passage.answer
      rw [ended]
      exact ⟨_, rfl⟩
    obtain ⟨summary, answered⟩ := answered
    exact .inl ⟨summary, answered, shows⟩
  · have answered : (survey.scanner.scanFrom 0 files model ()).answer files.length =
        .error error := by
      unfold Scanner.Passage.answer
      rw [ended]
    exact .inr ⟨error, name, answered, shared⟩

variable (survey) in
/-- Scans lists of files one after the other, as long as the scans succeed. -/
def scanAll : List (List Path) → Model → Except ModelError Model
  | [], model => .ok model
  | files :: others, model =>
    let run := survey.scanner.scan files model ()
    match run.result with
    | .ok _ => scanAll others run.model
    | .error error => .error error

theorem Portrays.scanAll (portrays : survey.Portrays project paths model)
    (lists : List (List Path)) :
    (∃ after, survey.scanAll lists model = .ok after ∧
      survey.Portrays project (paths ∪ {path | ∃ files ∈ lists, path ∈ files}) after) ∨
    ∃ error name, survey.scanAll lists model = .error error ∧
      survey.Shared project.key (paths ∪ {path | ∃ files ∈ lists, path ∈ files}) name := by
  induction lists generalizing paths model with
  | nil =>
    left
    simp only [List.not_mem_nil, false_and, exists_false, Set.ofPred_false, Set.union_empty]
    exact ⟨model, rfl, portrays⟩
  | cons files others ih =>
    have all : paths ∪ {path | ∃ list ∈ files :: others, path ∈ list} =
        paths ∪ {path | path ∈ files} ∪ {path | ∃ list ∈ others, path ∈ list} := by
      ext path
      simp only [List.mem_cons, exists_eq_or_imp, Set.mem_union, Set.mem_ofPred_eq, or_assoc]
    rw [all]
    rcases portrays.scan files with ⟨summary, done, shows⟩ | ⟨error, name, failed, shared, _⟩
    · simp only [Survey.scanAll, done]
      exact ih shows
    · right
      refine ⟨error, name, ?_, shared.mono Set.subset_union_left⟩
      simp only [Survey.scanAll, failed]

/-! What scans leave behind, and when they fail. -/

theorem Portrays.portrait?_eq {other : Model} (first : survey.Portrays project paths model)
    (second : survey.Portrays project paths other) :
    model.index.portrait? = other.index.portrait? := by
  funext key
  apply Option.ext
  intro picture
  rw [first.shown, second.shown]

def ofTexts (text : Path → List Char) (groupByDirectory : Bool) : Survey where
  parse path := SourceFile.ofText path (text path)
  filesMetric? := some StandardMetric.files.metric
  groupByDirectory := groupByDirectory

/-- A scan of the files of a directory fails if and only if two entities need the same key, and then
the error names such a key. Without packages this is the case when a file has the project's name. -/
theorem scan_fails_iff_shared (survey : Survey) (key : String) (files : List Path) :
    let run := survey.scanner.scan files (.ofKey key) ()
    ((∃ error, run.result = .error error) ↔
      ∃ name, survey.Shared key {path | path ∈ files} name) ∧
    (∀ error, run.result = .error error →
      ∃ name, survey.Shared key {path | path ∈ files} name ∧ error = .duplicateKey name) ∧
    (survey.groupByDirectory = false →
      ((∃ error, run.result = .error error) ↔ ⟨key⟩ ∈ files)) := by
  intro run
  have outcome := (portrays_ofProject survey { kind := .project, key }).scan files
  rw [Set.empty_union] at outcome
  have fails : (∃ error, run.result = .error error) ↔
      ∃ name, survey.Shared key {path | path ∈ files} name := by
    rcases outcome with ⟨summary, done, shows⟩ | ⟨error, name, failed, shared, _⟩
    · apply iff_of_false
      · rintro ⟨error, failed⟩
        cases done.symm.trans failed
      · rintro ⟨name, shared⟩
        exact shows.not_shared name shared
    · exact iff_of_true ⟨error, failed⟩ ⟨name, shared⟩
  refine ⟨fails, ?_, ?_⟩
  · intro error failed
    rcases outcome with ⟨summary, done, _⟩ | ⟨known, name, alsoFailed, shared, named⟩
    · cases done.symm.trans failed
    · have same : known = error := Except.error.inj (alsoFailed.symm.trans failed)
      exact ⟨name, shared, same ▸ named nofun⟩
  · intro ungrouped
    have alone : ∀ path, survey.scanner.directory? path = none := by
      intro path
      simp [Scanner.directory?, scanner, ungrouped]
    rw [fails]
    constructor
    · rintro ⟨name, shared⟩
      cases shared with
      | fileAndProject member same => exact same ▸ member
      | packageAndProject _ lies _ => cases (alone _).symm.trans lies
      | packageAndFile _ lies _ _ => cases (alone _).symm.trans lies
    · intro member
      exact ⟨key, .fileAndProject member rfl⟩

/-- A file can have the name of the directory that is scanned; a directory that is scanned can have
the key of the package of a directory in it; and so can a file. -/
theorem scan_fails_on_own_names :
    let survey := ofTexts fun _ => "int x;\n".toList
    ((survey false).scanner.scan [⟨"a.c"⟩] (.ofKey "a.c") ()).result =
      .error (.duplicateKey "a.c") ∧
    ((survey true).scanner.scan [⟨"x/a.c"⟩] (.ofKey "package:x") ()).result =
      .error (.duplicateKey "package:x") ∧
    ((survey true).scanner.scan [⟨"package:x.c"⟩, ⟨"x.c/a.c"⟩] (.ofKey "p") ()).result =
      .error (.duplicateKey "package:x.c") :=
  ⟨rfl, rfl, rfl⟩

end CodeMetrics.Survey
