import CodeMetrics.Proofs.Model.Cascade
import CodeMetrics.Proofs.Scan.FileEntry

/-!
When a file cannot enter the code model, and what is lost then. The file's own key may be held,
which is seen before anything is changed. The key of its package may be held, which is seen only
after the older entity of the file is gone.
-/

namespace CodeMetrics

namespace EntityIndex

/-- The key of a file cannot be freed: an entity of another kind has it, or the project. -/
def HoldsKey (index : EntityIndex) (path : Path) : Prop :=
  ∃ id entity, index.get? id = some entity ∧ entity.key = path.text ∧
    (entity.kind ≠ .file ∨ id = root)

/-- The entity of a file that an earlier scan left. -/
def Leftover (index : EntityIndex) (path : Path) (id : EntityId) : Prop :=
  ∃ entity, index.get? id = some entity ∧ entity.key = path.text ∧ entity.kind = .file ∧ id ≠ root

/-- An entity other than a package of the project has the key of a directory's package. -/
def Bars (index : EntityIndex) (directory : Path) (id : EntityId) : Prop :=
  ∃ entity, index.get? id = some entity ∧ entity.key = packageKey directory ∧
    ¬(entity.kind = .package ∧ entity.parent? = some root)

variable {index after : EntityIndex} {path directory : Path} {id old : EntityId}

theorem Leftover.unique (wf : index.WellFormed) (first : index.Leftover path id)
    (second : index.Leftover path old) : id = old := by
  obtain ⟨entity, found, hasKey, _⟩ := first
  obtain ⟨other, foundOther, otherKey, _⟩ := second
  exact wf.key_unique found foundOther (hasKey.trans otherKey.symm)

theorem HoldsKey.not_leftover (wf : index.WellFormed) (holds : index.HoldsKey path) :
    ¬index.Leftover path old := by
  obtain ⟨id, entity, found, hasKey, fixed⟩ := holds
  rintro ⟨other, foundOther, otherKey, isFile, notRoot⟩
  have same := wf.key_unique found foundOther (hasKey.trans otherKey.symm)
  subst same
  rw [found] at foundOther
  cases foundOther
  rcases fixed with otherKind | isRoot
  · exact otherKind isFile
  · exact notRoot isRoot

/-- What bars a package still does after a removal, unless it went with the subtree. -/
theorem Removed.bars_iff {entity : Entity} {removed : List Entity}
    (gone : index.Removed old entity removed after) (wf : index.WellFormed) :
    after.Bars directory id ↔ index.Bars directory id ∧ ¬index.Within old id := by
  constructor
  · rintro ⟨known, found, hasKey, foreign⟩
    obtain ⟨outside, before, foundBefore, rfl⟩ := gone.found_old wf found
    exact ⟨⟨before, foundBefore, hasKey, foreign⟩, outside⟩
  · rintro ⟨⟨known, found, hasKey, foreign⟩, outside⟩
    exact ⟨_, gone.keeps wf found outside, hasKey, foreign⟩

end EntityIndex

namespace Scanner

variable {σ α : Type} {model after : Model} {path directory : Path} {scanner : Scanner σ α}

theorem vacate_cases (wf : model.index.WellFormed) (path : Path) :
    (model.index.HoldsKey path ∧ ∃ error, vacate model path.text = .error error) ∨
      (model.index.idOf? path.text = none ∧ vacate model path.text = .ok model) ∨
      ∃ old removed after, model.index.Leftover path old ∧
        model.remove old = .ok (removed, after) ∧ vacate model path.text = .ok after := by
  cases known : model.index.idOf? path.text with
  | none =>
    refine .inr (.inl ⟨rfl, ?_⟩)
    rw [vacate, EntityIndex.find?, known]
    rfl
  | some id =>
    obtain ⟨entity, found, hasKey⟩ := wf.keyed.mp known
    have lookup := EntityIndex.find?_of_get? wf found
    rw [hasKey] at lookup
    by_cases kind : entity.kind = .file
    · have vacated : vacate model path.text = (model.remove id).map Prod.snd := by
        simp only [vacate, lookup, wf.id_eq found, kind, if_true]
      -- A project may be of the kind of a file, but it cannot be removed to make room.
      by_cases isRoot : id = EntityIndex.root
      · refine .inl ⟨⟨id, entity, found, hasKey, .inr isRoot⟩, .rootRemoval, ?_⟩
        rw [vacated, isRoot]
        rfl
      · obtain ⟨removed, after, done⟩ :=
          Model.exists_remove isRoot (EntityIndex.contains_of_get? found)
        refine .inr (.inr ⟨id, removed, after, ⟨entity, found, hasKey, kind, isRoot⟩, done, ?_⟩)
        rw [vacated, done]
        rfl
    · refine .inl ⟨⟨id, entity, found, hasKey, .inl kind⟩, .duplicateKey path.text, ?_⟩
      simp only [vacate, lookup, wf.id_eq found, kind, if_false]

/-- The package of a directory is there or is made, unless its key is barred. Nothing else about the
keys changes. -/
theorem packageFor_cases (wf : model.index.WellFormed) (directory : Path) :
    ((∃ id, model.index.Bars directory id) ∧
        packageFor model directory = .error (.duplicateKey (packageKey directory))) ∨
      ((∀ id, ¬model.index.Bars directory id) ∧
        ∃ parent after, packageFor model directory = .ok (parent, after) ∧
          after.index.contains parent = true ∧
          ∀ key, key ≠ packageKey directory →
            after.index.idOf? key = model.index.idOf? key) := by
  cases among : packageAmong model.index directory with
  | some package =>
    obtain ⟨id, found, below, isPackage, hasKey⟩ := (packageAmong_eq_some_iff wf).mp among
    refine .inr ⟨?_, id, model, ?_, EntityIndex.contains_of_get? found, fun _ _ => rfl⟩
    · rintro other ⟨entity, foundOther, otherKey, foreign⟩
      have same := wf.key_unique found foundOther (hasKey.trans otherKey.symm)
      rw [← same, found] at foundOther
      cases foundOther
      exact foreign ⟨isPackage, below⟩
    · simp only [packageFor_eq, among, Option.bind_some, wf.id_eq found]
  | none =>
    have made : packageFor model directory =
        model.insert EntityIndex.root (packageEntity directory) := by
      simp only [packageFor_eq, among, Option.bind_none]
    cases taken : model.index.idOf? (packageKey directory) with
    | some id =>
      -- Whatever has the key is no package of the project, or it would have been found.
      obtain ⟨entity, found, hasKey⟩ := wf.keyed.mp taken
      refine .inl ⟨⟨id, entity, found, hasKey, ?_⟩, ?_⟩
      · rintro ⟨isPackage, below⟩
        have first := (packageAmong_eq_some_iff wf).mpr ⟨id, found, below, isPackage, hasKey⟩
        cases among.symm.trans first
      · have keyTaken : model.index.idOf? (packageEntity directory).key = some id := taken
        rw [made, Model.insert, EntityIndex.insert, keyTaken]
        rfl
    | none =>
      have keyFree : model.index.idOf? (packageEntity directory).key = none := taken
      obtain ⟨project, foundRoot, _⟩ := wf.root_live
      obtain ⟨id, after, inserted⟩ :=
        Model.exists_insert keyFree (EntityIndex.contains_of_get? foundRoot)
      obtain ⟨index, placed, rfl⟩ := Model.insert_eq_ok inserted
      refine .inr ⟨?_, id, _, made.trans inserted,
        EntityIndex.contains_of_get? placed.found_new, fun key other => ?_⟩
      · rintro other ⟨entity, found, hasKey, _⟩
        cases taken.symm.trans (wf.keyed.mpr ⟨entity, found, hasKey⟩)
      · exact (placed.keys key).trans (if_neg other)

theorem parentFor_cases (scanner : Scanner σ α) (wf : model.index.WellFormed) (path : Path) :
    (∃ directory, scanner.directory? path = some directory ∧
        (∃ id, model.index.Bars directory id) ∧
        scanner.parentFor model path = .error (.duplicateKey (packageKey directory))) ∨
      ((∀ directory, scanner.directory? path = some directory →
          ∀ id, ¬model.index.Bars directory id) ∧
        ∃ parent after, scanner.parentFor model path = .ok (parent, after) ∧
          after.index.contains parent = true ∧
          after.index.idOf? path.text = model.index.idOf? path.text) := by
  rw [parentFor_eq]
  cases lies : scanner.directory? path with
  | none =>
    obtain ⟨project, found, _⟩ := wf.root_live
    refine .inr ⟨?_, EntityIndex.root, model, rfl, EntityIndex.contains_of_get? found, rfl⟩
    intro directory impossible
    cases impossible
  | some directory =>
    rcases packageFor_cases wf directory with
      ⟨barred, refused⟩ | ⟨unbarred, parent, after, done, live, keys⟩
    · exact .inl ⟨directory, rfl, barred, refused⟩
    · refine .inr ⟨?_, parent, after, done, live, keys _ (packageKey_ne_text lies).symm⟩
      intro other same
      cases same
      exact unbarred

/-- Below a live parent and with a free key, a file always finds its place. -/
theorem exists_indexFile {vacated grown : Model} {parent : EntityId}
    (freed : vacate model path.text = .ok vacated)
    (found : scanner.parentFor vacated path = .ok (parent, grown))
    (live : grown.index.contains parent = true) (free : grown.index.idOf? path.text = none) :
    ∃ file after, scanner.indexFile model path = (.ok file, after) := by
  have keyFree : grown.index.idOf? (fileEntity path).key = none := free
  obtain ⟨file, entered, inserted⟩ := Model.exists_insert keyFree live
  obtain ⟨index, placed, rfl⟩ := Model.insert_eq_ok inserted
  unfold fileEntity at inserted
  cases counted : scanner.filesMetric? with
  | none =>
    refine ⟨file, { grown with index }, ?_⟩
    simp only [indexFile, freed, found, inserted, counted]
  | some metric =>
    have there : index.contains file = true := EntityIndex.contains_of_get? placed.found_new
    obtain ⟨after, set⟩ : ∃ after, Model.setMeasure { grown with index } file metric 1.0 =
        .ok after := by
      rw [Model.setMeasure, EntityIndex.setMeasure, EntityIndex.update, if_pos there]
      exact ⟨_, rfl⟩
    refine ⟨file, after, ?_⟩
    simp only [indexFile, freed, found, inserted, counted, set]

/-- The package of a file's directory cannot be had: its key belongs to an entity that is not such a
package and does not go with an older entity of the file. -/
def Barred (scanner : Scanner σ α) (index : EntityIndex) (path directory : Path) : Prop :=
  scanner.directory? path = some directory ∧
    ∃ id, index.Bars directory id ∧ ∀ old, index.Leftover path old → ¬index.Within old id

inductive Outcome (scanner : Scanner σ α) (model : Model) (path : Path) :
    Except ModelError EntityId × Model → Prop where
  | held (error : ModelError) (holds : model.index.HoldsKey path) :
      Outcome scanner model path (.error error, model)
  | barred {directory : Path} (fresh : ∀ old, ¬model.index.Leftover path old)
      (barred : scanner.Barred model.index path directory) :
      Outcome scanner model path (.error (.duplicateKey (packageKey directory)), model)
  | bereft {directory : Path} {old : EntityId} {removed : List Entity} {after : Model}
      (leftover : model.index.Leftover path old) (done : model.remove old = .ok (removed, after))
      (barred : scanner.Barred model.index path directory) :
      Outcome scanner model path (.error (.duplicateKey (packageKey directory)), after)
  | entered (file : EntityId) (after : Model) (free : ¬model.index.HoldsKey path)
      (unbarred : ∀ directory, ¬scanner.Barred model.index path directory) :
      Outcome scanner model path (.ok file, after)

/-- Once the key of a file is free, only its package can stand in the way. -/
theorem indexFile_of_vacate (scanner : Scanner σ α) {vacated : Model}
    (wf : vacated.index.WellFormed) (freed : vacate model path.text = .ok vacated)
    (free : vacated.index.idOf? path.text = none)
    (bars_iff : ∀ directory, (∃ id, vacated.index.Bars directory id) ↔
      ∃ id, model.index.Bars directory id ∧
        ∀ old, model.index.Leftover path old → ¬model.index.Within old id) :
    (∃ directory, scanner.Barred model.index path directory ∧ scanner.indexFile model path =
        (.error (.duplicateKey (packageKey directory)), vacated)) ∨
      ((∀ directory, ¬scanner.Barred model.index path directory) ∧
        ∃ file after, scanner.indexFile model path = (.ok file, after)) := by
  rcases scanner.parentFor_cases wf path with
    ⟨directory, lies, barred, refused⟩ | ⟨unbarred, parent, grown, found, live, keys⟩
  · refine .inl ⟨directory, ⟨lies, (bars_iff directory).mp barred⟩, ?_⟩
    simp only [indexFile, freed, refused]
  · refine .inr ⟨?_, exists_indexFile freed found live (keys.trans free)⟩
    rintro directory ⟨lies, barred⟩
    obtain ⟨id, bars⟩ := (bars_iff directory).mpr barred
    exact unbarred directory lies id bars

theorem indexFile_outcome (scanner : Scanner σ α) (wf : model.index.WellFormed) (path : Path) :
    scanner.Outcome model path (scanner.indexFile model path) := by
  rcases vacate_cases wf path with
    ⟨holds, error, refused⟩ | ⟨free, freed⟩ | ⟨old, removed, vacated, leftover, done, freed⟩
  · have indexed : scanner.indexFile model path = (.error error, model) := by
      simp only [indexFile, refused]
    rw [indexed]
    exact .held error holds
  · have unused : ∀ id entity, model.index.get? id = some entity → entity.key ≠ path.text := by
      intro id entity found hasKey
      cases free.symm.trans (wf.keyed.mpr ⟨entity, found, hasKey⟩)
    have fresh : ∀ old, ¬model.index.Leftover path old := by
      rintro old ⟨entity, found, hasKey, _⟩
      exact unused old entity found hasKey
    rcases scanner.indexFile_of_vacate wf freed free (by simp [fresh]) with
      ⟨directory, barred, indexed⟩ | ⟨unbarred, file, after, indexed⟩
    · rw [indexed]
      exact .barred fresh barred
    · rw [indexed]
      refine .entered file after ?_ unbarred
      rintro ⟨id, entity, found, hasKey, _⟩
      exact unused id entity found hasKey
  · obtain ⟨⟨entity, gone⟩, _⟩ := Model.remove_eq_ok wf done
    have free : vacated.index.idOf? path.text = none := by
      obtain ⟨known, found, hasKey, _⟩ := leftover
      rw [← hasKey]
      exact gone.key_free ((gone.mem_removed_iff wf).mpr ⟨old, .self found, found⟩)
    -- The entity that goes is the only one that an earlier scan can have left.
    have bars_iff : ∀ directory, (∃ id, vacated.index.Bars directory id) ↔
        ∃ id, model.index.Bars directory id ∧
          ∀ other, model.index.Leftover path other → ¬model.index.Within other id := by
      intro directory
      simp only [gone.bars_iff wf]
      refine exists_congr fun id => and_congr_right fun _ => ⟨?_, ?_⟩
      · intro outside other same
        rw [same.unique wf leftover]
        exact outside
      · exact fun outside => outside old leftover
    rcases scanner.indexFile_of_vacate (gone.wellFormed wf) freed free bars_iff with
      ⟨directory, barred, indexed⟩ | ⟨unbarred, file, after, indexed⟩
    · rw [indexed]
      exact .bereft leftover done barred
    · rw [indexed]
      exact .entered file after (fun holds => holds.not_leftover wf leftover) unbarred

/-- After any calls, a file cannot be indexed exactly when its key is held for good or its package
is barred. A refusal leaves the model as it was if and only if no earlier scan left the file.
Otherwise it is the package that is barred, and the file's older entity is lost, with all below it
and every edge there. -/
theorem indexFile_refused_loses_leftover (project : Entity) (calls : List ModelCall)
    (scanner : Scanner σ α) (path : Path) :
    let model := (Model.ofProject project).run calls
    let outcome := scanner.indexFile model path
    ((∃ error, outcome.1 = .error error) ↔
      model.index.HoldsKey path ∨ ∃ directory, scanner.Barred model.index path directory) ∧
    ∀ error, outcome.1 = .error error →
      (outcome.2 = model ↔ ∀ old, ¬model.index.Leftover path old) ∧
      (∀ old, model.index.Leftover path old →
        ∃ directory removed, scanner.Barred model.index path directory ∧
          error = .duplicateKey (packageKey directory) ∧
          model.remove old = .ok (removed, outcome.2)) := by
  intro model outcome
  have wf : model.index.WellFormed :=
    ((Model.consistent_ofProject project).run calls).wellFormed
  have ends : scanner.Outcome model path outcome := scanner.indexFile_outcome wf path
  generalize outcome = result at ends
  cases ends with
  | held failure holds =>
    have fresh : ∀ old, ¬model.index.Leftover path old := fun old => holds.not_leftover wf
    refine ⟨⟨fun _ => .inl holds, fun _ => ⟨failure, rfl⟩⟩, fun error _ => ⟨?_, ?_⟩⟩
    · exact iff_of_true rfl fresh
    · exact fun old leftover => absurd leftover (fresh old)
  | barred fresh barred =>
    refine ⟨⟨fun _ => .inr ⟨_, barred⟩, fun _ => ⟨_, rfl⟩⟩, fun error _ => ⟨?_, ?_⟩⟩
    · exact iff_of_true rfl fresh
    · exact fun old leftover => absurd leftover (fresh old)
  | @bereft directory old removed after leftover done barred =>
    refine ⟨⟨fun _ => .inr ⟨_, barred⟩, fun _ => ⟨_, rfl⟩⟩, fun error failed => ⟨?_, ?_⟩⟩
    · refine iff_of_false ?_ fun fresh => fresh old leftover
      intro (same : after = model)
      rw [same] at done
      obtain ⟨⟨entity, gone⟩, _⟩ := Model.remove_eq_ok wf done
      have stays := (gone.contains_iff wf).mp (EntityIndex.contains_of_get? gone.found)
      exact stays.2 ((EntityIndex.mem_subtree_iff wf).mpr (.self gone.found))
    · intro other same
      cases failed
      rw [same.unique wf leftover]
      exact ⟨directory, removed, barred, rfl, done⟩
  | entered file after free unbarred =>
    refine ⟨⟨?_, ?_⟩, ?_⟩
    · rintro ⟨error, failed⟩
      cases failed
    · rintro (holds | ⟨directory, barred⟩)
      · exact absurd holds free
      · exact absurd barred (unbarred directory)
    · intro error failed
      cases failed

/-- A type of the project has the key that the package of a file's directory would have. The file is
refused, and the entity that it had is gone. -/
theorem leftover_lost_to_barred_package :
    let model := (Model.ofKey "p").run
      [.insert EntityIndex.root { kind := .file, key := "d/a.c" },
        .insert EntityIndex.root { kind := .type, key := "package:d" }]
    let scanner : Scanner Unit Unit :=
      { parse := fun _ host => (.ok (), host), groupByDirectory := true }
    let outcome := scanner.indexFile model ⟨"d/a.c"⟩
    model.index.idOf? "d/a.c" = some 1 ∧
      outcome.1 = .error (.duplicateKey "package:d") ∧
      outcome.2.index.idOf? "d/a.c" = none ∧ outcome.2.index.size < model.index.size := by
  decide +kernel

end Scanner

end CodeMetrics
