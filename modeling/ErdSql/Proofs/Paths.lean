import ErdSql.Proofs.Runs
import Mathlib.Data.List.Nodup

/-!
# Paths of files

The path of a file is its stem with an end that tells creating from dropping.  Files have
different paths exactly if the stems of the artifacts that are written differ.  The stems of the
database and of the schemas differ from all others; those of data models are made of names that
the modeller chooses, and two of them may be equal.  Where none are, memory keeps all files.
-/

namespace ErdSql

namespace Storage.Memory

theorem mem_setFile (path text : String) (files : List (String × String)) :
    (path, text) ∈ setFile path text files := by
  induction files with
  | nil => exact List.mem_singleton.2 rfl
  | cons file files ih =>
      unfold setFile
      by_cases hpath : file.1 = path
      · rw [if_pos hpath]
        exact List.mem_cons_self ..
      · rw [if_neg hpath]
        exact List.mem_cons_of_mem _ ih

theorem mem_setFile_of_ne {path text : String} {files : List (String × String)}
    {file : String × String} (hfile : file ∈ files) (hpath : file.1 ≠ path) :
    file ∈ setFile path text files := by
  induction files with
  | nil => cases hfile
  | cons first files ih =>
      unfold setFile
      by_cases hfirst : first.1 = path
      · rw [if_pos hfirst]
        rcases List.mem_cons.1 hfile with rfl | hfile
        · exact absurd hfirst hpath
        · exact List.mem_cons_of_mem _ hfile
      · rw [if_neg hfirst]
        rcases List.mem_cons.1 hfile with rfl | hfile
        · exact List.mem_cons_self ..
        · exact List.mem_cons_of_mem _ (ih hfile)

theorem mem_written_of_not_mem {memory : Memory} {file : String × String}
    (hfile : file ∈ memory.files) {writes : List (String × String)}
    (hpath : file.1 ∉ writes.map (·.1)) : file ∈ (written memory writes).files := by
  induction writes generalizing memory with
  | nil => exact hfile
  | cons w writes ih =>
      rw [List.map_cons, List.mem_cons, not_or] at hpath
      have hnext : file ∈ (Memory.write memory w.1 w.2).files :=
        mem_setFile_of_ne hfile hpath.1
      exact ih hnext hpath.2

/-- Memory keeps all that is written to different paths. -/
theorem mem_written {writes : List (String × String)} (h : (writes.map (·.1)).Nodup)
    (memory : Memory) {file : String × String} (hfile : file ∈ writes) :
    file ∈ (written memory writes).files := by
  induction writes generalizing memory with
  | nil => cases hfile
  | cons w writes ih =>
      rw [List.map_cons, List.nodup_cons] at h
      rcases List.mem_cons.1 hfile with rfl | hfile
      · have hkept : file ∈ (Memory.write memory file.1 file.2).files :=
          mem_setFile file.1 file.2 memory.files
        exact mem_written_of_not_mem hkept h.1
      · exact ih h.2 (Memory.write memory w.1 w.2) hfile

end Storage.Memory

namespace Generation

section Stems

theorem createPath_inj {stem other : String} (h : createPath stem = createPath other) :
    stem = other :=
  (String.append_left_inj "_create.sql").1 h

theorem dropPath_inj {stem other : String} (h : dropPath stem = dropPath other) :
    stem = other :=
  (String.append_left_inj "_drop.sql").1 h

theorem createPath_ne_dropPath (stem other : String) : createPath stem ≠ dropPath other := by
  intro h
  have hlist := congrArg String.toList h
  have hcreate : (createPath stem).toList =
      (stem ++ "_creat").toList ++ ['e', '.', 's', 'q', 'l'] := by
    simp [createPath, String.toList_append]
  have hdrop : (dropPath other).toList =
      (other ++ "_dro").toList ++ ['p', '.', 's', 'q', 'l'] := by
    simp [dropPath, String.toList_append]
  rw [hcreate, hdrop] at hlist
  -- the letters before the ends differ
  obtain ⟨-, hends⟩ := List.append_inj' hlist rfl
  exact absurd hends (by decide)

/-- The paths of the files with a stem. -/
def stemPaths (options : Options) (stem : String) : List String :=
  createPath stem :: if options.dropStatements then [dropPath stem] else []

theorem nodup_stemPaths (options : Options) (stem : String) :
    (stemPaths options stem).Nodup := by
  unfold stemPaths
  split
  · simp [createPath_ne_dropPath]
  · simp

/-- A path tells its stem. -/
theorem eq_of_mem_stemPaths {options : Options} {stem other path : String}
    (h : path ∈ stemPaths options stem) (h' : path ∈ stemPaths options other) :
    stem = other := by
  have hcases : ∀ {s : String}, path ∈ stemPaths options s →
      path = createPath s ∨ path = dropPath s := by
    intro s hs
    unfold stemPaths at hs
    split at hs
    · simpa using hs
    · exact Or.inl (by simpa using hs)
  rcases hcases h with hpath | hpath <;> rcases hcases h' with hpath' | hpath'
  · exact createPath_inj (hpath.symm.trans hpath')
  · exact absurd (hpath.symm.trans hpath') (createPath_ne_dropPath _ _)
  · exact absurd (hpath'.symm.trans hpath) (createPath_ne_dropPath _ _)
  · exact dropPath_inj (hpath.symm.trans hpath')

theorem nodup_flatMap_stemPaths (options : Options) (stems : List String) :
    (stems.flatMap (stemPaths options)).Nodup ↔ stems.Nodup := by
  rw [List.nodup_flatMap]
  constructor
  · rintro ⟨-, hdisjoint⟩
    refine hdisjoint.imp ?_
    rintro stem other hdisjoint rfl
    have hmem : createPath stem ∈ stemPaths options stem := List.mem_cons_self ..
    exact hdisjoint hmem hmem
  · intro hstems
    refine ⟨fun stem _ => nodup_stemPaths options stem, hstems.imp ?_⟩
    intro stem other hne path hpath hpath'
    exact hne (eq_of_mem_stemPaths hpath hpath')

end Stems

section Artifacts

/-- The stems of those artifacts in a list that are written. -/
def writtenStems (options : Options) (list : List Artifact) : List String :=
  (list.filter (Artifact.isWritten options)).map Artifact.stem

/-- The stems of the artifacts of all data models. -/
def modelStems (options : Options) (project : Project) : List String :=
  writtenStems options (project.dataModels.flatMap dataModelArtifacts)

theorem writtenStems_append (options : Options) (list list' : List Artifact) :
    writtenStems options (list ++ list') =
      writtenStems options list ++ writtenStems options list' := by
  simp [writtenStems]

theorem map_fst_flatMap_files {options : Options} {unit : String}
    (hunit : options.indentUnit = .ok unit) (index : Index) (list : List Artifact) :
    (list.flatMap (Artifact.files options index)).map (·.1) =
      (writtenStems options list).flatMap (stemPaths options) := by
  induction list with
  | nil => rfl
  | cons artifact list ih =>
      have hfiles : (artifact.files options index).map (·.1) =
          (writtenStems options [artifact]).flatMap (stemPaths options) := by
        rw [Artifact.files_of_indentUnit hunit, writtenStems, List.filter_singleton]
        cases artifact.isWritten options with
        | false => rfl
        | true =>
            simp only [cond_true, if_true, List.map_cons, List.map_nil, List.flatMap_cons,
              List.flatMap_nil, List.append_nil, ScriptPair.files, stemPaths]
            split <;> rfl
      rw [List.flatMap_cons, List.map_append, ih, hfiles, ← List.flatMap_append,
        ← writtenStems_append]
      rfl

theorem underscore_mem_append (s t : String) : '_' ∈ (s ++ "_" ++ t).toList := by
  rw [String.toList_append, String.toList_append]
  exact List.mem_append_left _ (List.mem_append_right _ (List.mem_singleton.2 rfl))

theorem exists_stem_eq {dataModel : DataModel} {artifact : Artifact}
    (h : artifact ∈ dataModelArtifacts dataModel) :
    ∃ part, artifact.stem = Naming.normalize dataModel.name ++ "_" ++ part := by
  unfold dataModelArtifacts at h
  rcases List.mem_append.1 h with h | h
  · rcases List.mem_cons.1 h with rfl | h
    · exact ⟨_, rfl⟩
    · rw [List.mem_singleton.1 h]
      exact ⟨_, rfl⟩
  · split at h
    · cases h
    · obtain ⟨file, hfile, rfl⟩ := List.mem_map.1 h
      rcases TableFile.mem_tableFiles hfile with ⟨diagram, -, rfl⟩ | rfl
      · exact ⟨_, rfl⟩
      · refine ⟨"table", ?_⟩
        rw [String.append_assoc]
        rfl

theorem underscore_mem_of_mem_modelStems {options : Options} {project : Project}
    {stem : String} (h : stem ∈ modelStems options project) : '_' ∈ stem.toList := by
  obtain ⟨artifact, hartifact, rfl⟩ := List.mem_map.1 h
  obtain ⟨dataModel, -, hmem⟩ := List.mem_flatMap.1 (List.mem_filter.1 hartifact).1
  obtain ⟨part, hstem⟩ := exists_stem_eq hmem
  rw [hstem]
  exact underscore_mem_append _ _

/-- The stems of the database and of the schemas differ from all others. -/
theorem nodup_writtenStems_artifacts (options : Options) (project : Project) :
    (writtenStems options (artifacts project)).Nodup ↔ (modelStems options project).Nodup := by
  have hsplit : writtenStems options (artifacts project) =
      writtenStems options [.database project] ++
        (modelStems options project ++ writtenStems options [.schemas project]) := by
    rw [modelStems, ← writtenStems_append, ← writtenStems_append]
    rfl
  have hstem : ∀ artifact, ∀ stem ∈ writtenStems options [artifact], stem = artifact.stem := by
    intro artifact stem hstem
    obtain ⟨found, hfound, rfl⟩ := List.mem_map.1 hstem
    rw [List.mem_singleton.1 (List.mem_filter.1 hfound).1]
  have hdatabase : ∀ stem ∈ writtenStems options [.database project], stem = "db" :=
    hstem (.database project)
  have hschemas : ∀ stem ∈ writtenStems options [.schemas project], stem = "schema" :=
    hstem (.schemas project)
  have hsingle : ∀ artifact, (writtenStems options [artifact]).Nodup := by
    intro artifact
    rw [writtenStems, List.filter_singleton]
    cases artifact.isWritten options with
    | false => exact List.nodup_nil
    | true => exact List.nodup_singleton _
  rw [hsplit, List.nodup_append', List.nodup_append']
  constructor
  · rintro ⟨-, ⟨hmodels, -⟩, -⟩
    exact hmodels
  · intro hmodels
    refine ⟨hsingle _, ⟨hmodels, hsingle _, ?_⟩, ?_⟩
    · intro stem hstem hstem'
      have hunderscore := underscore_mem_of_mem_modelStems hstem
      rw [hschemas stem hstem'] at hunderscore
      exact absurd hunderscore (by decide)
    · intro stem hstem hstem'
      rw [hdatabase stem hstem] at hstem'
      rcases List.mem_append.1 hstem' with hstem' | hstem'
      · exact absurd (underscore_mem_of_mem_modelStems hstem') (by decide)
      · exact absurd (hschemas _ hstem') (by decide)

end Artifacts

namespace Generator

open Storage

theorem mem_files_of_success {keeper : Generator Memory} {moment : Log.Moment}
    {project : Project}
    (h : (keeper.generateProject moment project).result.success = true)
    (hpaths : ((projectFiles keeper.options project).map (·.1)).Nodup)
    {file : String × Sql.Script} (hfile : file ∈ projectFiles keeper.options project) :
    (file.1, file.2.text) ∈ (keeper.generateProject moment project).sink.files := by
  have hdelivered := deliver_of_neverFails (neverFails_memory keeper.sink)
    (keeper.plan project).events
  have hfiles : Event.files (keeper.plan project).events =
      (projectFiles keeper.options project).map fun file => (file.1, file.2.text) := by
    rw [← scripts_of_success keeper moment project h, ← Event.files_eq_map_scripts,
      files_generateProject, delivery, hdelivered]
  have hsink : (keeper.generateProject moment project).sink =
      written keeper.sink (Event.files (keeper.plan project).events) :=
    congrArg Delivery.sink hdelivered
  rw [hsink, hfiles]
  refine Memory.mem_written ?_ keeper.sink (List.mem_map.2 ⟨file, hfile, rfl⟩)
  rw [List.map_map]
  exact hpaths

/-- The files of a run that succeeds have different paths exactly if the stems of the data
models differ; then memory keeps the text of each. -/
theorem nodup_files_iff_nodup_stems {σ : Type} [Sink σ] (generator : Generator σ)
    (moment : Log.Moment) (project : Project)
    (hsuccess :
      (generator.generate moment (some (.project project))).result.success = true) :
    ((generator.generate moment (some (.project project))).result.files.Nodup ↔
        (modelStems generator.options project).Nodup) ∧
      ((modelStems generator.options project).Nodup →
        ∀ (keeper : Generator Memory) (moment' : Log.Moment),
          keeper.options = generator.options →
            ∀ file ∈ projectFiles generator.options project,
              (file.1, file.2.text) ∈
                (keeper.generate moment' (some (.project project))).sink.files) := by
  obtain ⟨unit, hunit⟩ := exists_indentUnit_of_success generator moment project hsuccess
  have hpaths : ((projectFiles generator.options project).map (·.1)).Nodup ↔
      (modelStems generator.options project).Nodup := by
    rw [projectFiles, map_fst_flatMap_files hunit, nodup_flatMap_stemPaths,
      nodup_writtenStems_artifacts]
  have hfiles : (generator.generate moment (some (.project project))).result.files =
      (projectFiles generator.options project).map (·.1) := by
    rw [← scripts_of_success generator moment project hsuccess]
    exact files_result_eq_map_scripts generator moment project
  rw [hfiles]
  refine ⟨hpaths, ?_⟩
  intro hstems keeper moment' hoptions file hfile
  have hkept : (keeper.generateProject moment' project).result.success = true :=
    success_of_neverFails generator moment project hoptions (neverFails_memory _) hsuccess moment'
  rw [← hoptions] at hpaths hstems hfile
  exact mem_files_of_success hkept (hpaths.2 hstems) hfile

/-- A project with two diagrams whose names differ only in case. -/
def twoOrdersProject : Project :=
  { name := "Shop", dataModels := [{
      name := "Sales"
      members := [
        .diagram { name := "Orders", entities := [{ name := "Purchase" }] },
        .diagram { name := "orders", entities := [{ name := "Refund" }] }] }] }

/-- The run of the project on memory. -/
def twoOrdersRun : Run Memory :=
  ({ sink := {} } : Generator Memory).generate ⟨2024, 1, 1, 0, 0, 0, 0⟩
    (some (.project twoOrdersProject))

/-- The run succeeds, and the second diagram takes the place of the first. -/
theorem nodup_files_iff_nodup_stems_twoOrders :
    twoOrdersRun.result.success = true ∧
      twoOrdersRun.result.files =
        ["db_create.sql", "db_drop.sql", "sales_orders_create.sql", "sales_orders_drop.sql",
          "sales_orders_create.sql", "sales_orders_drop.sql"] ∧
      ¬ (modelStems {} twoOrdersProject).Nodup := by
  have hsuccess : twoOrdersRun.result.success = true := by decide +kernel
  have hfiles : twoOrdersRun.result.files =
      ["db_create.sql", "db_drop.sql", "sales_orders_create.sql", "sales_orders_drop.sql",
        "sales_orders_create.sql", "sales_orders_drop.sql"] := by decide +kernel
  refine ⟨hsuccess, hfiles, fun hstems => ?_⟩
  have hnodup := (nodup_files_iff_nodup_stems _ _ _ hsuccess).1.2 hstems
  change twoOrdersRun.result.files.Nodup at hnodup
  rw [hfiles] at hnodup
  exact absurd hnodup (by decide)

end Generator

end Generation
end ErdSql
