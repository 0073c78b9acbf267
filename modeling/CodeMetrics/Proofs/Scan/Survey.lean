import CodeMetrics.Proofs.Scan.FileEntry
import CodeMetrics.Proofs.Source.Decisions
import Mathlib.Data.Set.Insert

/-!
What is to be in the code model after scans that measure lines and complexity: the project, the
packages of the directories, and the files, all told by the set of paths alone. All of them share
one table of keys. One more file is scanned if its key and that of its package are free for them,
and otherwise it is refused.
-/

namespace CodeMetrics

/-- Scans with a parser to which only the path matters, which measure lines and complexity. -/
structure Survey where
  parse : Path → Except ParseFailure SourceFile
  threshold : Float := defaultThreshold
  filesMetric? : Option Metric := none
  groupByDirectory : Bool := false

namespace Survey

variable (survey : Survey) (project : Entity)

def scanner : Scanner Unit SourceFile where
  parse path host := (survey.parse path, host)
  visitors := [Visitor.lineMetrics Unit survey.threshold, Visitor.complexity Unit]
  filesMetric? := survey.filesMetric?
  groupByDirectory := survey.groupByDirectory

/-! What the model is to show. -/

/-- The six line counts of a file. The comments of a line count once, as text, as blank or as code
that was taken out. -/
def lineCounts (file : SourceFile) : List (Metric × Float) :=
  let lines := (file.language.source (file.language.recognizer survey.threshold) file.text).lines
  [(StandardMetric.lines.metric, lines.length.toFloat),
    (StandardMetric.blankLines.metric, (lines.countP Line.isBlank).toFloat),
    (StandardMetric.linesOfCode.metric, (lines.countP Line.hasCode).toFloat),
    (StandardMetric.commentLines.metric, (lines.countP (·.comment? = some .text)).toFloat),
    (StandardMetric.commentBlankLines.metric, (lines.countP (·.comment? = some .blank)).toFloat),
    (StandardMetric.commentedOutCodeLines.metric,
      (lines.countP (·.comment? = some .code)).toFloat)]

def complexityOf (file : SourceFile) : Metric × Float :=
  let lines := (file.language.source (file.language.recognizer defaultThreshold) file.text).lines
  let branches := (lines.filter Line.hasCode).map fun line =>
    file.language.keywordCount line.bareCode + file.language.operatorCount line.bareCode
  (StandardMetric.complexity.metric, (1 + branches.sum).toFloat)

def values (path : Path) : List (Metric × Float) :=
  survey.scanner.fileValues ++ match survey.parse path with
    | .ok file => survey.lineCounts file ++ [complexityOf file]
    | .error _ => []

def remarks (path : Path) : List Remark :=
  match survey.parse path with
  | .ok _ => []
  | .error failure =>
    [{ rule := "ParseError", text := "Parse error: " ++ failure.message, line? := failure.line? }]

def scannedFile (path : Path) : Entity where
  kind := .file
  key := path.text
  name := path.fileName?.getD path.text
  raw := (survey.values path).foldl (fun table value => table.set value.1.name value.2) .empty
  remarks := survey.remarks path

/-- The entities after a scan of paths: the project, one package below it for each directory, and
one file for each path. -/
inductive Shows (paths : Set Path) : Portrait → Prop
  | project : Shows paths ⟨project.unlinked, none⟩
  | package {path directory : Path} (member : path ∈ paths)
      (lies : survey.scanner.directory? path = some directory) :
      Shows paths ⟨packageEntity directory, some project.key⟩
  | file {path : Path} (member : path ∈ paths) :
      Shows paths ⟨survey.scannedFile path, some (survey.scanner.parentKey project.key path)⟩

/-- A key that two of the entities need. -/
inductive Shared (projectKey : String) (paths : Set Path) : String → Prop
  | fileAndProject {path : Path} (member : path ∈ paths) (same : path.text = projectKey) :
      Shared projectKey paths path.text
  | packageAndProject {path directory : Path} (member : path ∈ paths)
      (lies : survey.scanner.directory? path = some directory)
      (same : packageKey directory = projectKey) : Shared projectKey paths (packageKey directory)
  | packageAndFile {path directory file : Path} (member : path ∈ paths)
      (lies : survey.scanner.directory? path = some directory) (memberFile : file ∈ paths)
      (same : packageKey directory = file.text) : Shared projectKey paths file.text

structure Portrays (paths : Set Path) (model : Model) : Prop where
  wellFormed : model.index.WellFormed
  shown : ∀ key picture, model.index.portrait? key = some picture ↔
    survey.Shows project paths picture ∧ picture.entity.key = key

variable {survey project} {paths : Set Path} {path : Path} {model : Model}

theorem Portrays.depicts (portrays : survey.Portrays project paths model) :
    model.index.Depicts model.index.portrait? :=
  ⟨portrays.wellFormed, rfl⟩

theorem Shows.mono {wider : Set Path} (included : paths ⊆ wider) {picture : Portrait}
    (shows : survey.Shows project paths picture) : survey.Shows project wider picture := by
  cases shows with
  | project => exact .project
  | package member lies => exact .package (included member) lies
  | file member => exact .file (included member)

/-- What is below something is below the project or below a package. -/
theorem Shows.parentKey_cases {picture : Portrait} {key : String}
    (shows : survey.Shows project paths picture) (named : picture.parentKey? = some key) :
    key = project.key ∨ ∃ path ∈ paths, ∃ directory,
      survey.scanner.directory? path = some directory ∧ packageKey directory = key := by
  cases shows with
  | project => cases named
  | package => exact .inl (Option.some.inj named).symm
  | @file path member =>
    have isKey : survey.scanner.parentKey project.key path = key := Option.some.inj named
    unfold Scanner.parentKey at isKey
    cases lies : survey.scanner.directory? path with
    | none =>
      rw [lies] at isKey
      exact .inl isKey.symm
    | some directory =>
      rw [lies] at isKey
      exact .inr ⟨path, member, directory, lies, isKey⟩

theorem Shared.mono {projectKey : String} {wider : Set Path} (included : paths ⊆ wider)
    {name : String} (shared : survey.Shared projectKey paths name) :
    survey.Shared projectKey wider name := by
  cases shared with
  | fileAndProject member same => exact .fileAndProject (included member) same
  | packageAndProject member lies same => exact .packageAndProject (included member) lies same
  | packageAndFile member lies memberFile same =>
    exact .packageAndFile (included member) lies (included memberFile) same

theorem portrays_ofProject (survey : Survey) (project : Entity) :
    survey.Portrays project ∅ (.ofProject project) := by
  have depicts := EntityIndex.depicts_ofProject project
  refine ⟨depicts.wellFormed, ?_⟩
  intro key picture
  change (EntityIndex.ofProject project).portrait? key = _ ↔ _
  rw [depicts.portrait?_eq]
  constructor
  · intro shown
    by_cases same : key = project.key
    · rw [same, Function.update_self] at shown
      cases shown
      exact ⟨.project, same.symm⟩
    · rw [Function.update_of_ne same] at shown
      cases shown
  · rintro ⟨shows, rfl⟩
    cases shows with
    | project => exact Function.update_self ..
    | package member => cases member
    | file member => cases member

/-! One more file. -/

variable (survey) in
structure Fits (projectKey : String) (paths : Set Path) (path : Path) : Prop where
  notProject : path.text ≠ projectKey
  notPackage : ∀ other ∈ paths, ∀ directory, survey.scanner.directory? other = some directory →
    packageKey directory ≠ path.text
  package : ∀ directory, survey.scanner.directory? path = some directory →
    packageKey directory ≠ projectKey ∧ packageKey directory ≠ path.text ∧
      ∀ file ∈ paths, packageKey directory ≠ file.text

theorem Portrays.replaces (portrays : survey.Portrays project paths model)
    (notProject : path.text ≠ project.key)
    (notPackage : ∀ other ∈ paths, ∀ directory, survey.scanner.directory? other = some directory →
      packageKey directory ≠ path.text) :
    Scanner.Replaces model.index.portrait? project.key path where
  root := ⟨_, (portrays.shown project.key _).mpr ⟨.project, rfl⟩⟩
  replaceable picture shown := by
    obtain ⟨shows, hasKey⟩ := (portrays.shown _ _).mp shown
    cases shows with
    | project => exact absurd hasKey.symm notProject
    | package member lies => exact absurd hasKey (notPackage _ member _ lies)
    | file => exact ⟨rfl, nofun⟩
  unnamed other below shown := by
    intro named
    obtain ⟨shows, _⟩ := (portrays.shown _ _).mp shown
    rcases shows.parentKey_cases named with same | ⟨file, member, directory, lies, same⟩
    · exact notProject same
    · exact notPackage file member directory lies same

theorem Portrays.receives (portrays : survey.Portrays project paths model)
    (fits : survey.Fits project.key paths path) :
    survey.scanner.Receives model.index.portrait? project.key path where
  toReplaces := portrays.replaces fits.notProject fits.notPackage
  ownKey directory lies := (fits.package directory lies).2.1
  package directory lies picture shown := by
    obtain ⟨notProject, _, notFile⟩ := fits.package directory lies
    obtain ⟨shows, hasKey⟩ := (portrays.shown _ _).mp shown
    cases shows with
    | project => exact absurd hasKey.symm notProject
    | package => rw [packageKey_injective hasKey]
    | file member => exact absurd hasKey.symm (notFile _ member)

theorem lineCounts_eq_measures (survey : Survey) (file : SourceFile) :
    let source := file.language.source (file.language.recognizer survey.threshold) file.text
    survey.lineCounts file =
      source.totals.measures.map fun (standard, count) => (standard.metric, count.toFloat) :=
  rfl

theorem complexityOf_eq (file : SourceFile) :
    let recognizer := file.language.recognizer defaultThreshold
    complexityOf file = (StandardMetric.complexity.metric,
      (file.language.complexity recognizer file.text).toFloat) := by
  intro recognizer
  rw [Language.complexity_eq_decisionsOf, Language.decisionsOf]
  simp only [Language.decisions_eq]
  rfl

section Visits

variable {table : String → Option Portrait} {key : String} {id : EntityId} {picture : Portrait}

theorem visits_places (survey : Survey) (placed : model.Places table key id picture) (path : Path)
    (file : SourceFile) :
    let step := ScanStep.runAll (survey.scanner.visitSteps ⟨id, path⟩ file) model ()
    step.failure? = none ∧ step.model.Places table key id { picture with
      entity := picture.entity.setMeasures (survey.lineCounts file ++ [complexityOf file]) } := by
  obtain ⟨counted, lines, first⟩ := placed.setMeasures (survey.lineCounts file)
  obtain ⟨after, complexity, second⟩ := first.setMeasures [complexityOf file]
  rw [lineCounts_eq_measures] at lines
  rw [complexityOf_eq] at complexity
  rw [Entity.setMeasures_append] at second
  have done : ∃ events, ScanStep.runAll (survey.scanner.visitSteps ⟨id, path⟩ file) model () =
      { model := after, host := (), events } := by
    simp [Scanner.visitSteps, scanner, ScanStep.runAll, ScanStep.andThen, ScanStep.ofVisit,
      Visitor.lineMetrics, Visitor.complexity, lines, complexity]
  obtain ⟨events, done⟩ := done
  rw [done]
  exact ⟨rfl, second⟩

end Visits

theorem scannedFile_of_ok {file : SourceFile} (parses : survey.parse path = .ok file) :
    ((fileEntity path).setMeasures survey.scanner.fileValues).setMeasures
      (survey.lineCounts file ++ [complexityOf file]) = survey.scannedFile path := by
  rw [Entity.setMeasures_append, Entity.setMeasures_eq rfl, scannedFile, values, remarks, parses]
  rfl

theorem scannedFile_of_error {failure : ParseFailure} (fails : survey.parse path = .error failure) :
    ((fileEntity path).setMeasures survey.scanner.fileValues).addRemark
      (Scanner.parseRemark failure) = survey.scannedFile path := by
  rw [Entity.setMeasures_eq rfl, scannedFile, values, remarks, fails, List.append_nil]
  rfl

/-- A file that fits is scanned, and its entity is there with all its values and remarks. -/
theorem Portrays.stepOf (portrays : survey.Portrays project paths model)
    (fits : survey.Fits project.key paths path) :
    survey.scanner.refusal? ⟨path, model, ()⟩ = none ∧
      ∃ id, (survey.scanner.stepOf ⟨path, model, ()⟩).model.Places
        (survey.scanner.withPackage project.key path model.index.portrait?) path.text id
        ⟨survey.scannedFile path, some (survey.scanner.parentKey project.key path)⟩ := by
  obtain ⟨id, entered, indexed, placed⟩ := (portrays.receives fits).indexFile portrays.depicts
  unfold Scanner.refusal? Scanner.stepOf Scanner.scanFile
  simp only [indexed]
  cases parsed : survey.parse path with
  | ok file =>
    obtain ⟨accepted, visited⟩ := visits_places survey placed path file
    rw [scannedFile_of_ok parsed] at visited
    simp only [scanner, parsed, ScanStep.andThen]
    exact ⟨accepted, id, visited⟩
  | error failure =>
    obtain ⟨after, recorded, remarked⟩ := placed.addRemark (Scanner.parseRemark failure)
    rw [scannedFile_of_error parsed] at remarked
    simp only [scanner, parsed, ScanStep.andThen, Scanner.recordFailure, recorded]
    exact ⟨rfl, id, remarked⟩

theorem withPackage_of_directory {directory : Path}
    (lies : survey.scanner.directory? path = some directory) (rootKey : String)
    (table : String → Option Portrait) :
    survey.scanner.withPackage rootKey path table =
      Function.update table (packageKey directory)
        (some ⟨packageEntity directory, some rootKey⟩) := by
  rw [Scanner.withPackage, lies]

/-- Under a key that is not the package's own the table stays. -/
theorem withPackage_of_ne {key : String} (other : ∀ directory,
      survey.scanner.directory? path = some directory → key ≠ packageKey directory)
    (rootKey : String) (table : String → Option Portrait) :
    survey.scanner.withPackage rootKey path table key = table key := by
  unfold Scanner.withPackage
  cases lies : survey.scanner.directory? path with
  | none => rfl
  | some directory => exact Function.update_of_ne (other directory lies) ..

/-- The table with a new file shows what it is to show. -/
theorem Portrays.shown_insert (portrays : survey.Portrays project paths model)
    (fits : survey.Fits project.key paths path) (key : String) (picture : Portrait) :
    Function.update (survey.scanner.withPackage project.key path model.index.portrait?) path.text
        (some ⟨survey.scannedFile path, some (survey.scanner.parentKey project.key path)⟩) key =
        some picture ↔
      survey.Shows project (insert path paths) picture ∧ picture.entity.key = key := by
  have wider : paths ⊆ insert path paths := Set.subset_insert path paths
  -- Keys of files, of packages and of the project never meet, so each update hides nothing else.
  constructor
  · intro shown
    by_cases own : key = path.text
    · rw [own, Function.update_self] at shown
      cases shown
      exact ⟨.file (Set.mem_insert path paths), own.symm⟩
    · rw [Function.update_of_ne own] at shown
      by_cases isPackage : ∃ directory,
          survey.scanner.directory? path = some directory ∧ key = packageKey directory
      · obtain ⟨directory, lies, rfl⟩ := isPackage
        rw [withPackage_of_directory lies, Function.update_self] at shown
        cases shown
        exact ⟨.package (Set.mem_insert path paths) lies, rfl⟩
      · rw [withPackage_of_ne fun directory lies same => isPackage ⟨directory, lies, same⟩] at shown
        obtain ⟨shows, hasKey⟩ := (portrays.shown _ _).mp shown
        exact ⟨shows.mono wider, hasKey⟩
  · rintro ⟨shows, rfl⟩
    cases shows with
    | project =>
      change Function.update _ _ _ project.key = _
      rw [Function.update_of_ne fits.notProject.symm,
        withPackage_of_ne fun directory lies same => (fits.package directory lies).1 same.symm]
      exact (portrays.shown _ _).mpr ⟨.project, rfl⟩
    | @package other directory member lies =>
      change Function.update _ _ _ (packageKey directory) = _
      have notFile : packageKey directory ≠ path.text := by
        rcases member with rfl | old
        · exact (fits.package directory lies).2.1
        · exact fits.notPackage other old directory lies
      rw [Function.update_of_ne notFile]
      by_cases isOwn : survey.scanner.directory? path = some directory
      · rw [withPackage_of_directory isOwn, Function.update_self]
      · have old : other ∈ paths := member.resolve_left fun same => isOwn (same ▸ lies)
        have unlike : ∀ own, survey.scanner.directory? path = some own →
            packageKey directory ≠ packageKey own := by
          intro own ownLies same
          obtain rfl := packageKey_injective same
          exact isOwn ownLies
        rw [withPackage_of_ne unlike]
        exact (portrays.shown _ _).mpr ⟨.package old lies, rfl⟩
    | @file other member =>
      change Function.update _ _ _ other.text = _
      by_cases same : other = path
      · rw [same, Function.update_self]
      · have old : other ∈ paths := member.resolve_left same
        rw [Function.update_of_ne fun texts => same (Path.eq_of_text texts),
          withPackage_of_ne fun directory lies texts =>
            (fits.package directory lies).2.2 other old texts.symm]
        exact (portrays.shown _ _).mpr ⟨.file old, rfl⟩

/-- A file that fits is scanned, and then the model shows it too. -/
theorem Portrays.accepts (portrays : survey.Portrays project paths model)
    (fits : survey.Fits project.key paths path) :
    survey.scanner.refusal? ⟨path, model, ()⟩ = none ∧
      survey.Portrays project (insert path paths)
        (survey.scanner.stepOf ⟨path, model, ()⟩).model := by
  obtain ⟨accepted, id, placed⟩ := portrays.stepOf fits
  refine ⟨accepted, placed.depicts.wellFormed, ?_⟩
  intro key picture
  rw [placed.depicts.portrait?_eq]
  exact portrays.shown_insert fits key picture

/-! A file that does not fit. -/

variable (survey project paths path model) in
def Refuses : Prop :=
  ∃ error name, survey.scanner.refusal? ⟨path, model, ()⟩ = some error ∧
    survey.Shared project.key (insert path paths) name ∧
    (project.kind ≠ .file → error = .duplicateKey name)

theorem Portrays.shown_project (portrays : survey.Portrays project paths model) :
    model.index.portrait? project.key = some ⟨project.unlinked, none⟩ :=
  (portrays.shown _ _).mpr ⟨.project, rfl⟩

theorem Portrays.refuses_project (portrays : survey.Portrays project paths model)
    (same : path.text = project.key) : survey.Refuses project paths path model := by
  have shown := portrays.shown_project
  rw [← same] at shown
  obtain ⟨error, refused⟩ := Scanner.vacate_root portrays.depicts shown rfl
  refine ⟨error, path.text, Scanner.refusal?_of_vacate refused (),
    .fileAndProject (Set.mem_insert path paths) same, ?_⟩
  intro plain
  rw [Scanner.vacate_taken portrays.depicts shown plain] at refused
  exact (Except.error.inj refused).symm

theorem Portrays.refuses_package (portrays : survey.Portrays project paths model)
    {other directory : Path} (member : other ∈ paths)
    (lies : survey.scanner.directory? other = some directory)
    (same : packageKey directory = path.text) : survey.Refuses project paths path model := by
  have shown : model.index.portrait? path.text =
      some ⟨packageEntity directory, some project.key⟩ :=
    (portrays.shown _ _).mpr ⟨.package member lies, same⟩
  have refused := Scanner.vacate_taken portrays.depicts shown nofun
  exact ⟨_, path.text, Scanner.refusal?_of_vacate refused (),
    .packageAndFile (Set.mem_insert_of_mem path member) lies (Set.mem_insert path paths) same,
    fun _ => rfl⟩

/-- The key of the package is the project's key or that of a file. It is never that of the file
itself, so it makes no difference that an older entity of the file is gone by now. -/
theorem Portrays.refuses_own_package (portrays : survey.Portrays project paths model)
    (replaces : Scanner.Replaces model.index.portrait? project.key path) {directory : Path}
    (lies : survey.scanner.directory? path = some directory)
    (taken : packageKey directory = project.key ∨
      ∃ file ∈ insert path paths, packageKey directory = file.text) :
    survey.Refuses project paths path model := by
  have own : path ∈ insert path paths := Set.mem_insert path paths
  obtain ⟨vacated, free, isRoot, depicts⟩ := replaces.vacate portrays.depicts
  have notOwn : packageKey directory ≠ path.text := Scanner.packageKey_ne_text lies
  have stays : Function.update model.index.portrait? path.text none (packageKey directory) =
      model.index.portrait? (packageKey directory) := Function.update_of_ne notOwn ..
  rcases taken with isProject | ⟨file, member, isFile⟩
  · have shown := stays.trans (isProject ▸ portrays.shown_project)
    have refused := Scanner.parentFor_taken survey.scanner depicts lies shown (.inr rfl)
    exact ⟨_, packageKey directory, Scanner.refusal?_of_parentFor free refused (),
      .packageAndProject own lies isProject, fun _ => rfl⟩
  · have old : file ∈ paths := member.resolve_left fun same => notOwn (same ▸ isFile)
    have shown := stays.trans ((portrays.shown _ _).mpr ⟨.file old, isFile.symm⟩)
    have refused := Scanner.parentFor_taken survey.scanner depicts lies shown (.inl nofun)
    rw [isFile] at refused
    exact ⟨_, file.text, Scanner.refusal?_of_parentFor free refused (),
      .packageAndFile own lies member isFile, fun _ => rfl⟩

theorem Portrays.refuses (portrays : survey.Portrays project paths model)
    (unfit : ¬survey.Fits project.key paths path) : survey.Refuses project paths path model := by
  by_cases notProject : path.text ≠ project.key
  · by_cases notPackage : ∀ other ∈ paths, ∀ directory,
        survey.scanner.directory? other = some directory → packageKey directory ≠ path.text
    · have replaces := portrays.replaces notProject notPackage
      by_contra accepted
      apply unfit
      refine ⟨notProject, notPackage, fun directory lies => ⟨?_, ?_, ?_⟩⟩
      · intro same
        exact accepted (portrays.refuses_own_package replaces lies (.inl same))
      · intro same
        exact accepted (portrays.refuses_own_package replaces lies
          (.inr ⟨path, Set.mem_insert path paths, same⟩))
      · intro file member same
        exact accepted (portrays.refuses_own_package replaces lies
          (.inr ⟨file, Set.mem_insert_of_mem path member, same⟩))
    · push Not at notPackage
      obtain ⟨other, member, directory, lies, same⟩ := notPackage
      exact portrays.refuses_package member lies same
  · exact portrays.refuses_project (not_not.mp notProject)

end Survey

end CodeMetrics
