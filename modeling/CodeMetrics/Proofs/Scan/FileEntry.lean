import CodeMetrics.Proofs.Index.Portrait
import CodeMetrics.Proofs.Scan.Passage

/-!
How a file enters the code model: an older entity of the file goes, the package of its directory is
found or made, and the new entity is put below it. Each step is told by what it does to the table of
keys and portraits.
-/

namespace CodeMetrics

def Entity.setMeasures (entity : Entity) (values : List (Metric × Float)) : Entity :=
  values.foldl (fun entity value => entity.setMeasure value.1 value.2) entity

theorem Entity.setMeasures_append (entity : Entity) (first second : List (Metric × Float)) :
    (entity.setMeasures first).setMeasures second = entity.setMeasures (first ++ second) :=
  List.foldl_append.symm

theorem Entity.setMeasures_eq {entity : Entity} (plain : entity.decorated? = none)
    (values : List (Metric × Float)) :
    entity.setMeasures values =
      { entity with
        raw := values.foldl (fun table value => table.set value.1.name value.2) entity.raw } := by
  induction values generalizing entity with
  | nil => rfl
  | cons value others ih =>
    have rest := ih (show (entity.setMeasure value.1 value.2).decorated? = none from rfl)
    rw [setMeasures, List.foldl_cons, ← setMeasures, rest, setMeasure, ← plain]
    rfl

namespace Model

variable {model : Model} {table : String → Option Portrait} {key : String} {id parent : EntityId}
  {entity : Entity} {picture : Portrait}

theorem insert_depicts (depicts : model.index.Depicts table) {parentKey : String}
    (isParent : model.index.idOf? parentKey = some parent) (entity : Entity)
    (free : table entity.key = none) :
    ∃ id after, model.insert parent entity = .ok (id, after) ∧
      after.index.idOf? entity.key = some id ∧
      after.index.Depicts (Function.update table entity.key
        (some ⟨entity.unlinked, some parentKey⟩)) := by
  obtain ⟨id, index, inserted, isKey, depicted⟩ := depicts.insert isParent free
  refine ⟨id, { model with index }, ?_, isKey, depicted⟩
  rw [Model.insert, inserted]
  rfl

theorem insert_taken (depicts : model.index.Depicts table) (taken : table entity.key = some picture)
    (parent : EntityId) : model.insert parent entity = .error (.duplicateKey entity.key) := by
  rw [Model.insert, depicts.insert_taken taken parent]
  rfl

theorem remove_depicts (depicts : model.index.Depicts table)
    (isKey : model.index.idOf? key = some id) (shown : table key = some picture)
    (hasParent : picture.parentKey? ≠ none)
    (unnamed : ∀ other below, table other = some below → below.parentKey? ≠ some key) :
    ∃ after, (model.remove id).map Prod.snd = .ok after ∧
      after.index.Depicts (Function.update table key none) := by
  obtain ⟨removed, index, gone, depicted⟩ := depicts.remove isKey shown hasParent unnamed
  have done : (model.remove id).map Prod.snd = .ok ⟨index, (removed.filterMap Entity.id?).foldl
      (fun graph gone => (graph.removeVertex gone).2) model.graph⟩ := by
    rw [Model.remove, gone]
    rfl
  exact ⟨_, done, depicted⟩

/-- An entity stands under a key and looks like the picture; under the other keys is what the table
has there. -/
structure Places (model : Model) (table : String → Option Portrait) (key : String) (id : EntityId)
    (picture : Portrait) : Prop where
  isKey : model.index.idOf? key = some id
  depicts : model.index.Depicts (Function.update table key (some picture))

namespace Places

theorem update (places : model.Places table key id picture) (change : Entity → Entity)
    (keeps : ∀ entity, (change entity).links = entity.links)
    (blind : ∀ entity, (change entity).unlinked = change entity.unlinked) :
    ∃ index, model.index.update id change = .ok index ∧
      Places { model with index } table key id
        { picture with entity := change picture.entity } := by
  obtain ⟨index, updated, isKey, depicted⟩ :=
    places.depicts.update places.isKey (Function.update_self ..) keeps blind
  rw [Function.update_idem] at depicted
  exact ⟨index, updated, isKey, depicted⟩

theorem setMeasure (places : model.Places table key id picture) (metric : Metric) (value : Float) :
    ∃ after, model.setMeasure id metric value = .ok after ∧
      after.Places table key id
        { picture with entity := picture.entity.setMeasure metric value } := by
  obtain ⟨index, updated, placed⟩ :=
    places.update (fun entity => entity.setMeasure metric value) (fun _ => rfl) (fun _ => rfl)
  refine ⟨_, ?_, placed⟩
  rw [Model.setMeasure, EntityIndex.setMeasure, updated]
  rfl

theorem addRemark (places : model.Places table key id picture) (remark : Remark) :
    ∃ after, model.addRemark id remark = .ok after ∧
      after.Places table key id { picture with entity := picture.entity.addRemark remark } := by
  obtain ⟨index, updated, placed⟩ :=
    places.update (fun entity => entity.addRemark remark) (fun _ => rfl) (fun _ => rfl)
  refine ⟨_, ?_, placed⟩
  rw [Model.addRemark, EntityIndex.addRemark, updated]
  rfl

theorem setMeasures (places : model.Places table key id picture) (values : List (Metric × Float)) :
    ∃ after, model.setMeasures id values = (after, none) ∧
      after.Places table key id { picture with entity := picture.entity.setMeasures values } := by
  induction values generalizing model picture with
  | nil => exact ⟨model, rfl, places⟩
  | cons value others ih =>
    obtain ⟨middle, first, placed⟩ := places.setMeasure value.1 value.2
    obtain ⟨after, rest, final⟩ := ih placed
    refine ⟨after, ?_, final⟩
    rw [Model.setMeasures, first]
    exact rest

end Places

end Model

theorem Path.eq_of_text {first second : Path} (same : first.text = second.text) :
    first = second := by
  cases first
  cases second
  exact congrArg Path.mk same

theorem packageKey_injective {first second : Path} (same : packageKey first = packageKey second) :
    first = second := by
  apply Path.eq_of_text
  simpa [packageKey] using same

namespace Path

theorem head?_names (text : List Char) :
    (names text).head? = some (text.takeWhile (· != '/')) := by
  unfold names
  induction text with
  | nil => rfl
  | cons c rest ih =>
    rw [Text.segments]
    by_cases separates : c = '/'
    · simp [separates]
    · obtain ⟨first, others, split⟩ : ∃ first others, Text.segments (· == '/') rest =
          first :: others := List.ne_nil_iff_exists_cons.mp fun none => by simp [none] at ih
      rw [split] at ih ⊢
      simp [separates, ← Option.some.inj ih]

/-- Names that begin as those of a text do, put together again, have the text's first name. -/
theorem takeWhile_intercalate {text : List Char} {kept : List (List Char)}
    (begins : kept <+: names text) (nonempty : kept ≠ []) :
    (['/'].intercalate kept).takeWhile (· != '/') = text.takeWhile (· != '/') := by
  obtain ⟨first, others, rfl⟩ := List.ne_nil_iff_exists_cons.mp nonempty
  obtain ⟨rest, whole⟩ := begins
  have isFirst : first = text.takeWhile (· != '/') := by
    have head := head?_names text
    rw [← whole] at head
    exact Option.some.inj head
  have unseparated : ∀ c ∈ first, (c != '/') = true := by
    rw [isFirst]
    exact List.all_eq_true.mp List.all_takeWhile
  obtain ⟨tail, joined, stops⟩ : ∃ tail, ['/'].intercalate (first :: others) = first ++ tail ∧
      tail.takeWhile (· != '/') = [] := by
    cases others with
    | nil => exact ⟨[], by simp, rfl⟩
    | cons second others =>
      exact ⟨'/' :: ['/'].intercalate (second :: others), by simp [List.intercalate_cons_cons], rfl⟩
  rw [joined, List.takeWhile_append_of_pos unseparated, stops, List.append_nil, isFirst]

/-- A path is never the key of its directory's package: the key begins with a longer name than the
directory, and the path with the same. -/
theorem packageKey_ne_text {path directory : Path} (isParent : path.parent? = some directory)
    (named : directory.text ≠ "") : packageKey directory ≠ path.text := by
  intro same
  have text : path.text.toList = "package:".toList ++ directory.text.toList := by
    rw [← same, packageKey, String.toList_append]
  have headless : splitHead path.text.toList = ([], path.text.toList) := by
    rw [text]
    rfl
  unfold parent? body at isParent
  rw [headless] at isParent
  dsimp only at isParent
  split at isParent
  next => cases isParent
  next last before split =>
    have kept := Option.some.inj isParent
    have begins : (before.dropWhile isSilent).reverse <+: names path.text.toList := by
      rw [← List.reverse_suffix, List.reverse_reverse]
      have inner : before.dropWhile isSilent <:+ last :: before :=
        (List.dropWhile_suffix _).trans (List.suffix_cons ..)
      rw [← split] at inner
      exact inner.trans (List.dropWhile_suffix _)
    have joined : directory.text.toList =
        ['/'].intercalate (before.dropWhile isSilent).reverse := by
      rw [← kept]
      simp
    have nonempty : (before.dropWhile isSilent).reverse ≠ [] := by
      intro none
      rw [none] at joined
      exact named (String.toList_eq_nil_iff.mp joined)
    have firsts := takeWhile_intercalate begins nonempty
    rw [← joined, text, List.takeWhile_append_of_pos (by simp)] at firsts
    exact absurd (List.self_eq_append_left.mp firsts) (by simp)

end Path

def packageEntity (directory : Path) : Entity :=
  { kind := .package, key := packageKey directory, name := directory.text }

def fileEntity (path : Path) : Entity :=
  { kind := .file, key := path.text, name := path.fileName?.getD path.text }

namespace Scanner

variable {σ α : Type} {model : Model} {table : String → Option Portrait} {key rootKey : String}
  {directory path : Path} {picture : Portrait}

/-! An older entity goes. -/

theorem vacate_depicts (depicts : model.index.Depicts table)
    (replaceable : ∀ picture, table key = some picture →
      picture.entity.kind = .file ∧ picture.parentKey? ≠ none)
    (unnamed : ∀ other below, table other = some below → below.parentKey? ≠ some key) :
    ∃ after, vacate model key = .ok after ∧
      after.index.Depicts (Function.update table key none) := by
  cases shown : table key with
  | none =>
    have missing : model.index.find? key = none := by
      rw [EntityIndex.find?, depicts.idOf?_eq_none shown]
      rfl
    refine ⟨model, by rw [vacate, missing], ?_⟩
    rw [← shown, Function.update_eq_self]
    exact depicts
  | some picture =>
    obtain ⟨isFile, hasParent⟩ := replaceable picture shown
    obtain ⟨id, entity, isKey, found, rfl, rfl⟩ := depicts.exists_of_some shown
    obtain ⟨after, gone, depicted⟩ :=
      Model.remove_depicts depicts isKey shown hasParent unnamed
    have known : entity.id? = some id := depicts.wellFormed.id_eq found
    refine ⟨after, ?_, depicted⟩
    have kind : entity.kind = .file := isFile
    simp only [vacate, EntityIndex.find?_of_get? depicts.wellFormed found, known, kind, if_true,
      gone]

theorem vacate_taken (depicts : model.index.Depicts table) (shown : table key = some picture)
    (notFile : picture.entity.kind ≠ .file) : vacate model key = .error (.duplicateKey key) := by
  obtain ⟨id, entity, _, found, rfl, rfl⟩ := depicts.exists_of_some shown
  have known : entity.id? = some id := depicts.wellFormed.id_eq found
  have kind : entity.kind ≠ .file := notFile
  simp only [vacate, EntityIndex.find?_of_get? depicts.wellFormed found, known, kind, if_false]

theorem vacate_root (depicts : model.index.Depicts table) (shown : table key = some picture)
    (orphan : picture.parentKey? = none) : ∃ error, vacate model key = .error error := by
  obtain ⟨id, entity, isKey, found, rfl, rfl⟩ := depicts.exists_of_some shown
  have known : entity.id? = some id := depicts.wellFormed.id_eq found
  have isRoot : id = EntityIndex.root := (depicts.eq_root_iff isKey shown).mpr orphan
  subst isRoot
  by_cases kind : entity.kind = .file
  · refine ⟨.rootRemoval, ?_⟩
    simp only [vacate, EntityIndex.find?_of_get? depicts.wellFormed found, known, kind, if_true]
    rfl
  · exact ⟨_, vacate_taken depicts shown kind⟩

/-! The package of a directory. -/

def packageAmong (index : EntityIndex) (directory : Path) : Option Entity :=
  (index.childrenOf EntityIndex.root).find? fun child =>
    child.kind = .package && child.key = packageKey directory

theorem packageFor_eq (model : Model) (directory : Path) :
    packageFor model directory =
      match (packageAmong model.index directory).bind Entity.id? with
      | some id => .ok (id, model)
      | none => model.insert EntityIndex.root (packageEntity directory) :=
  rfl

theorem packageAmong_eq_some_iff {index : EntityIndex} (wf : index.WellFormed) {entity : Entity} :
    packageAmong index directory = some entity ↔
      ∃ id, index.get? id = some entity ∧ entity.parent? = some EntityIndex.root ∧
        entity.kind = .package ∧ entity.key = packageKey directory := by
  have chosen : ∀ {child}, packageAmong index directory = some child →
      ∃ id, index.get? id = some child ∧ child.parent? = some EntityIndex.root ∧
        child.kind = .package ∧ child.key = packageKey directory := by
    intro child first
    obtain ⟨id, found, below⟩ :=
      (EntityIndex.mem_childrenOf wf).mp (List.mem_of_find?_eq_some first)
    have fits := List.find?_some first
    simp only [Bool.and_eq_true, decide_eq_true_eq] at fits
    exact ⟨id, found, below, fits⟩
  constructor
  · exact chosen
  · rintro ⟨id, found, below, isPackage, hasKey⟩
    cases first : packageAmong index directory with
    | none =>
      have member : entity ∈ index.childrenOf EntityIndex.root :=
        (EntityIndex.mem_childrenOf wf).mpr ⟨id, found, below⟩
      have unfit := List.find?_eq_none.mp first entity member
      simp [isPackage, hasKey] at unfit
    | some child =>
      -- The key leads to one entity only, so it does not matter which child comes first.
      obtain ⟨place, foundChild, _, _, sameKey⟩ := chosen first
      have samePlace := wf.key_unique foundChild found (sameKey.trans hasKey.symm)
      rw [samePlace, found] at foundChild
      exact foundChild.symm

theorem packageFor_known (depicts : model.index.Depicts table)
    (isRoot : model.index.idOf? rootKey = some EntityIndex.root)
    (shown : table (packageKey directory) = some ⟨packageEntity directory, some rootKey⟩) :
    ∃ id, model.index.idOf? (packageKey directory) = some id ∧
      packageFor model directory = .ok (id, model) := by
  have wf := depicts.wellFormed
  obtain ⟨id, entity, isKey, found, hasKey, looks⟩ := depicts.exists_of_some shown
  have isPackage : entity.kind = .package := congrArg (fun portrait => portrait.entity.kind) looks
  have below : entity.parent? = some EntityIndex.root := by
    have named : entity.parent?.bind model.index.keyOf? = some rootKey :=
      congrArg Portrait.parentKey? looks
    obtain ⟨parent, isParent, parentKey⟩ := Option.bind_eq_some_iff.mp named
    obtain ⟨above, foundAbove, same⟩ := Option.map_eq_some_iff.mp parentKey
    rw [wf.keyed.mpr ⟨above, foundAbove, same⟩] at isRoot
    cases isRoot
    exact isParent
  have among : packageAmong model.index directory = some entity :=
    (packageAmong_eq_some_iff wf).mpr ⟨id, found, below, isPackage, hasKey⟩
  refine ⟨id, isKey, ?_⟩
  simp only [packageFor_eq, among, Option.bind_some, wf.id_eq found]

theorem packageFor_unknown (depicts : model.index.Depicts table) (directory : Path)
    (unknown : ∀ picture, table (packageKey directory) = some picture →
      picture.entity.kind ≠ .package ∨ picture.parentKey? = none) :
    packageFor model directory = model.insert EntityIndex.root (packageEntity directory) := by
  have wf := depicts.wellFormed
  have among : packageAmong model.index directory = none := by
    rw [Option.eq_none_iff_forall_ne_some]
    intro entity first
    obtain ⟨id, found, below, isPackage, hasKey⟩ := (packageAmong_eq_some_iff wf).mp first
    rcases unknown _ (hasKey ▸ depicts.of_get? found) with other | orphan
    · exact other isPackage
    · obtain ⟨project, foundRoot, _⟩ := wf.root_live
      rw [EntityIndex.portrait, below] at orphan
      have named := EntityIndex.keyOf?_of_get? foundRoot
      cases orphan.symm.trans named
  simp only [packageFor_eq, among, Option.bind_none]

def directory? (scanner : Scanner σ α) (path : Path) : Option Path :=
  if scanner.groupByDirectory then path.parent?.filter fun directory => directory.text ≠ ""
  else none

def parentKey (scanner : Scanner σ α) (rootKey : String) (path : Path) : String :=
  (scanner.directory? path).elim rootKey packageKey

/-- The table after the package for a file was made, unless it was there. -/
def withPackage (scanner : Scanner σ α) (rootKey : String) (path : Path)
    (table : String → Option Portrait) : String → Option Portrait :=
  match scanner.directory? path with
  | some directory =>
    Function.update table (packageKey directory) (some ⟨packageEntity directory, some rootKey⟩)
  | none => table

variable (scanner : Scanner σ α)

theorem parentFor_eq (model : Model) (path : Path) :
    scanner.parentFor model path =
      match scanner.directory? path with
      | some directory => packageFor model directory
      | none => .ok (EntityIndex.root, model) := by
  unfold parentFor directory?
  cases scanner.groupByDirectory <;> cases path.parent? with
  | none => rfl
  | some directory => by_cases nameless : directory.text = "" <;> simp [Option.filter, nameless]

theorem packageKey_ne_text {scanner : Scanner σ α}
    (lies : scanner.directory? path = some directory) :
    packageKey directory ≠ path.text := by
  unfold directory? at lies
  split at lies
  next =>
    obtain ⟨isParent, named⟩ := Option.filter_eq_some_iff.mp lies
    exact Path.packageKey_ne_text isParent (of_decide_eq_true named)
  next => cases lies

theorem parentFor_depicts (depicts : model.index.Depicts table)
    (isRoot : model.index.idOf? rootKey = some EntityIndex.root)
    (known : ∀ directory, scanner.directory? path = some directory → ∀ picture,
      table (packageKey directory) = some picture →
        picture = ⟨packageEntity directory, some rootKey⟩) :
    ∃ parent after, scanner.parentFor model path = .ok (parent, after) ∧
      after.index.idOf? (scanner.parentKey rootKey path) = some parent ∧
      after.index.Depicts (scanner.withPackage rootKey path table) := by
  rw [parentFor_eq]
  unfold parentKey withPackage
  cases lies : scanner.directory? path with
  | none => exact ⟨EntityIndex.root, model, rfl, isRoot, depicts⟩
  | some directory =>
    simp only [Option.elim_some]
    cases shown : table (packageKey directory) with
    | none =>
      have made := packageFor_unknown depicts directory (by simp [shown])
      obtain ⟨id, after, inserted, isKey, depicted⟩ :=
        Model.insert_depicts depicts isRoot (packageEntity directory) shown
      exact ⟨id, after, made.trans inserted, isKey, depicted⟩
    | some picture =>
      have same := known directory lies picture shown
      subst same
      obtain ⟨id, isKey, found⟩ := packageFor_known depicts isRoot shown
      refine ⟨id, model, found, isKey, ?_⟩
      rw [← shown, Function.update_eq_self]
      exact depicts

theorem parentFor_taken (depicts : model.index.Depicts table)
    (lies : scanner.directory? path = some directory)
    (shown : table (packageKey directory) = some picture)
    (foreign : picture.entity.kind ≠ .package ∨ picture.parentKey? = none) :
    scanner.parentFor model path = .error (.duplicateKey (packageKey directory)) := by
  have made := packageFor_unknown depicts directory (by
    intro other same
    rw [shown] at same
    cases same
    exact foreign)
  rw [parentFor_eq, lies]
  exact made.trans (Model.insert_taken depicts shown EntityIndex.root)

/-! The entity of a file. -/

def fileValues : List (Metric × Float) :=
  scanner.filesMetric?.toList.map fun metric => (metric, 1.0)

/-- A table in which the key of a file can be freed: what stands under it, if anything, is a file
with nothing below it. -/
structure Replaces (table : String → Option Portrait) (rootKey : String) (path : Path) : Prop where
  root : ∃ project, table rootKey = some ⟨project, none⟩
  replaceable : ∀ picture, table path.text = some picture →
    picture.entity.kind = .file ∧ picture.parentKey? ≠ none
  unnamed : ∀ other below, table other = some below → below.parentKey? ≠ some path.text

/-- A table that a file can enter: what stands under the key of its package, if anything, is this
package. -/
structure Receives (table : String → Option Portrait) (rootKey : String) (path : Path) : Prop
    extends Replaces table rootKey path where
  ownKey : ∀ directory, scanner.directory? path = some directory →
    packageKey directory ≠ path.text
  package : ∀ directory, scanner.directory? path = some directory → ∀ picture,
    table (packageKey directory) = some picture → picture = ⟨packageEntity directory, some rootKey⟩

variable {scanner}

theorem withPackage_update (own : ∀ directory, scanner.directory? path = some directory →
      packageKey directory ≠ path.text) (rootKey : String) (table : String → Option Portrait)
    (value : Option Portrait) :
    scanner.withPackage rootKey path (Function.update table path.text value) =
      Function.update (scanner.withPackage rootKey path table) path.text value := by
  unfold withPackage
  cases lies : scanner.directory? path with
  | none => rfl
  | some directory => exact Function.update_comm (own directory lies).symm ..

omit scanner in
theorem Replaces.vacate (replaces : Replaces table rootKey path)
    (depicts : model.index.Depicts table) :
    ∃ after, Scanner.vacate model path.text = .ok after ∧
      after.index.idOf? rootKey = some EntityIndex.root ∧
      after.index.Depicts (Function.update table path.text none) := by
  obtain ⟨after, vacated, depicted⟩ :=
    vacate_depicts depicts replaces.replaceable replaces.unnamed
  obtain ⟨project, shown⟩ := replaces.root
  have notOwn : rootKey ≠ path.text := by
    intro same
    exact (replaces.replaceable _ (same ▸ shown)).2 rfl
  have stays : Function.update table path.text none rootKey = some ⟨project, none⟩ := by
    rw [Function.update_of_ne notOwn]
    exact shown
  obtain ⟨id, _, isKey, _⟩ := depicted.exists_of_some stays
  have isRoot : id = EntityIndex.root := (depicted.eq_root_iff isKey stays).mpr rfl
  exact ⟨after, vacated, isRoot ▸ isKey, depicted⟩

theorem Receives.indexFile (receives : scanner.Receives table rootKey path)
    (depicts : model.index.Depicts table) :
    ∃ id after, scanner.indexFile model path = (.ok id, after) ∧
      after.Places (scanner.withPackage rootKey path table) path.text id
        ⟨(fileEntity path).setMeasures scanner.fileValues,
          some (scanner.parentKey rootKey path)⟩ := by
  obtain ⟨vacated, free, isRoot, depicted⟩ := receives.toReplaces.vacate depicts
  obtain ⟨parent, grown, found, isParent, packaged⟩ :=
    scanner.parentFor_depicts depicted isRoot (by
      intro directory lies picture shown
      rw [Function.update_of_ne (receives.ownKey directory lies)] at shown
      exact receives.package directory lies picture shown)
  -- The package has another key, so the key of the file is still free.
  rw [withPackage_update receives.ownKey] at packaged
  obtain ⟨id, entered, inserted, isKey, placed⟩ :=
    Model.insert_depicts packaged isParent (fileEntity path) (Function.update_self ..)
  rw [show (fileEntity path).key = path.text from rfl, Function.update_idem] at placed
  have first : entered.Places (scanner.withPackage rootKey path table) path.text id
      ⟨fileEntity path, some (scanner.parentKey rootKey path)⟩ :=
    ⟨isKey, placed⟩
  unfold fileEntity at inserted
  cases counted : scanner.filesMetric? with
  | none =>
    refine ⟨id, entered, ?_, ?_⟩
    · simp only [Scanner.indexFile, free, found, inserted, counted]
    · rw [fileValues, counted]
      exact first
  | some metric =>
    obtain ⟨after, set, second⟩ := first.setMeasure metric 1.0
    refine ⟨id, after, ?_, ?_⟩
    · simp only [Scanner.indexFile, free, found, inserted, counted, set]
    · rw [fileValues, counted]
      exact second

/-! Refusals. -/

theorem refusal?_of_indexFile {after : Model} {error : ModelError}
    (refused : scanner.indexFile model path = (.error error, after)) (host : σ) :
    scanner.refusal? ⟨path, model, host⟩ = some error := by
  simp only [refusal?, stepOf, scanFile, refused]

theorem refusal?_of_vacate {error : ModelError}
    (refused : vacate model path.text = .error error) (host : σ) :
    scanner.refusal? ⟨path, model, host⟩ = some error := by
  have indexed : scanner.indexFile model path = (.error error, model) := by
    simp only [indexFile, refused]
  exact refusal?_of_indexFile indexed host

theorem refusal?_of_parentFor {vacated : Model} {error : ModelError}
    (free : vacate model path.text = .ok vacated)
    (refused : scanner.parentFor vacated path = .error error) (host : σ) :
    scanner.refusal? ⟨path, model, host⟩ = some error := by
  have indexed : scanner.indexFile model path = (.error error, vacated) := by
    simp only [indexFile, free, refused]
  exact refusal?_of_indexFile indexed host

end Scanner

end CodeMetrics
