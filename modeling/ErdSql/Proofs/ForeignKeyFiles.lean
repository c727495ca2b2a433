import ErdSql.Proofs.ForeignKeyChoice
import ErdSql.Proofs.ForeignKeys
import Mathlib.Data.List.Forall2

/-!
# Files without and with foreign keys

Two runs of a project that differ in the choice to write foreign keys attempt the same files and
come to the same end.  Their files have the same texts, except that the script that creates a
group of tables goes on, after all tables, with the foreign keys that the columns of the group
call for, in the order of entities and columns.
-/

namespace ErdSql
namespace Generation

open Storage

/-- What the choice to write foreign keys makes of a file of an artifact. -/
inductive FileWithKeys (index : Index) : Artifact → String × Sql.Script →
    String × Sql.Script → Prop
  /-- No file changes but those that create tables. -/
  | same {artifact : Artifact} {file : String × Sql.Script}
      (h : ∀ schema tables, artifact = .tables schema tables → file.1 = dropPath tables.stem) :
      FileWithKeys index artifact file file
  /-- A script that creates tables goes on with the foreign keys of its group. -/
  | create {schema : String} {tables : TableFile} {script script' : Sql.Script}
      (none_before : ∀ item ∈ script.items, item.line.isForeignKey = false)
      (items : script'.items = script.items ++ (tables.foreignKeys index schema).map
        fun key => ⟨0, .statement (.addForeignKey key)⟩)
      (text : script'.text = script.text ++ String.join ((tables.foreignKeys index schema).map
        fun key => (Sql.Statement.addForeignKey key).text ++ "\n")) :
      FileWithKeys index (.tables schema tables) (createPath tables.stem, script)
        (createPath tables.stem, script')

section Artifacts

variable (options : Options) (index : Index)

theorem isWritten_withForeignKeys (write : Bool) (artifact : Artifact) :
    artifact.isWritten (options.withForeignKeys write) = artifact.isWritten options := by
  cases artifact <;> rfl

theorem filterMap_edits_withForeignKeys {β : Type} (f : Table.Edit → Option β)
    (hf : ∀ edit : Table.Edit, edit.isOfReference = true → f edit = none) (write : Bool)
    (schema : String) (file : TableFile) :
    (file.edits (options.withForeignKeys write) index schema).filterMap f =
      (file.edits options index schema).filterMap f := by
  simp only [TableFile.edits, List.filterMap_flatMap,
    Table.filterMap_entityEdits_withForeignKeys _ _ _ _ _ f hf]

theorem dropItems_withForeignKeys (write : Bool) (artifact : Artifact) :
    artifact.dropItems (options.withForeignKeys write) index =
      artifact.dropItems options index := by
  cases artifact with
  | tables schema file =>
      exact filterMap_edits_withForeignKeys options index Table.Edit.dropItem?
        (fun _ hedit => (Table.Edit.items_of_isOfReference hedit).2.1) write schema file
  | database project => rfl
  | routines kind dataModel => rfl
  | schemas project => rfl

theorem createItems_without (schema : String) (file : TableFile) :
    (Artifact.tables schema file).createItems (options.withForeignKeys false) index =
      (file.edits options index schema).filterMap Table.Edit.createItem? := by
  have hcreate := filterMap_edits_withForeignKeys options index Table.Edit.createItem?
    (fun _ hedit => (Table.Edit.items_of_isOfReference hedit).1) false schema file
  rw [Artifact.createItems, hcreate, TableFile.keys_edits_of_off rfl, List.map_nil,
    List.append_nil]

theorem createItems_with (schema : String) (file : TableFile) :
    (Artifact.tables schema file).createItems (options.withForeignKeys true) index =
      (Artifact.tables schema file).createItems (options.withForeignKeys false) index ++
        (file.foreignKeys index schema).map fun key => ⟨0, .statement (.addForeignKey key)⟩ := by
  have hcreate := filterMap_edits_withForeignKeys options index Table.Edit.createItem?
    (fun _ hedit => (Table.Edit.items_of_isOfReference hedit).1) true schema file
  rw [createItems_without, Artifact.createItems, hcreate, TableFile.keys_edits rfl, List.map_map]
  rfl

theorem files_withForeignKeys (artifact : Artifact) :
    List.Forall₂ (FileWithKeys index artifact)
      (artifact.files (options.withForeignKeys false) index)
      (artifact.files (options.withForeignKeys true) index) := by
  cases hunit : options.indentUnit with
  | error fault =>
      have hnone : ∀ write, artifact.files (options.withForeignKeys write) index = [] := by
        intro write
        have hunit' : (options.withForeignKeys write).indentUnit = .error fault := hunit
        rw [Artifact.files, hunit']
      rw [hnone, hnone]
      exact List.Forall₂.nil
  | ok unit =>
      have hfiles : ∀ write, artifact.files (options.withForeignKeys write) index =
          if artifact.isWritten options then
            (createPath artifact.stem,
              (artifact.scripts unit (options.withForeignKeys write) index).create) ::
              if options.dropStatements then
                [(dropPath artifact.stem, (artifact.scripts unit options index).drop)]
              else []
          else [] := by
        intro write
        have hunit' : (options.withForeignKeys write).indentUnit = .ok unit := hunit
        rw [Artifact.files_of_indentUnit hunit', isWritten_withForeignKeys, ScriptPair.files]
        simp only [Artifact.scripts, dropItems_withForeignKeys]
        rfl
      rw [hfiles, hfiles]
      split
      · have hdrop : List.Forall₂ (FileWithKeys index artifact)
            (if options.dropStatements then
              [(dropPath artifact.stem, (artifact.scripts unit options index).drop)] else [])
            (if options.dropStatements then
              [(dropPath artifact.stem, (artifact.scripts unit options index).drop)] else []) := by
          refine List.forall₂_same.2 fun file hfile => FileWithKeys.same ?_
          rintro schema tables rfl
          split at hfile
          · rw [List.mem_singleton.1 hfile]
            rfl
          · cases hfile
        refine List.Forall₂.cons ?_ hdrop
        cases artifact with
        | tables schema file =>
            have hitems := createItems_with options index schema file
            refine FileWithKeys.create ?_ hitems ?_
            · intro item hitem
              have hmem : item ∈ (file.edits options index schema).filterMap
                  Table.Edit.createItem? := by
                rw [← createItems_without]
                exact hitem
              have hnone := List.all_eq_true.1 (noForeignKeys_edits options index schema file)
                item hmem
              simpa using hnone
            · have htext := Sql.Script.text_append
                ((Artifact.tables schema file).scripts unit (options.withForeignKeys false)
                  index).create
                ((file.foreignKeys index schema).map fun key => .statement (.addForeignKey key))
              rw [List.map_map, List.map_map] at htext
              simp only [Artifact.scripts, hitems]
              exact htext
        | database project => exact FileWithKeys.same fun _ _ h => by cases h
        | routines kind dataModel => exact FileWithKeys.same fun _ _ h => by cases h
        | schemas project => exact FileWithKeys.same fun _ _ h => by cases h
      · exact List.Forall₂.nil

end Artifacts

section Project

variable (options : Options) (project : Project)

/-- A file of an artifact of the project without and with foreign keys. -/
def ProjectFileWithKeys (file file' : String × Sql.Script) : Prop :=
  ∃ artifact ∈ artifacts project,
    file ∈ artifact.files (options.withForeignKeys false) (.ofProject project) ∧
      file' ∈ artifact.files (options.withForeignKeys true) (.ofProject project) ∧
        FileWithKeys (.ofProject project) artifact file file'

theorem forall₂_mem {α β : Type} {R : α → β → Prop} {left : List α} {right : List β}
    (h : List.Forall₂ R left right) :
    List.Forall₂ (fun a b => a ∈ left ∧ b ∈ right ∧ R a b) left right := by
  induction h with
  | nil => exact List.Forall₂.nil
  | cons hrel _ ih =>
      refine List.Forall₂.cons ⟨List.mem_cons_self .., List.mem_cons_self .., hrel⟩ ?_
      refine ih.imp fun a b hab => ?_
      exact ⟨List.mem_cons_of_mem _ hab.1, List.mem_cons_of_mem _ hab.2.1, hab.2.2⟩

theorem projectFiles_withForeignKeys :
    List.Forall₂ (ProjectFileWithKeys options project)
      (projectFiles (options.withForeignKeys false) project)
      (projectFiles (options.withForeignKeys true) project) := by
  have hlist : ∀ list : List Artifact, (∀ artifact ∈ list, artifact ∈ artifacts project) →
      List.Forall₂ (ProjectFileWithKeys options project)
        (list.flatMap (Artifact.files (options.withForeignKeys false) (.ofProject project)))
        (list.flatMap (Artifact.files (options.withForeignKeys true) (.ofProject project))) := by
    intro list
    induction list with
    | nil => exact fun _ => List.Forall₂.nil
    | cons artifact list ih =>
        intro hmem
        have hartifact : artifact ∈ artifacts project := hmem _ (List.mem_cons_self ..)
        rw [List.flatMap_cons, List.flatMap_cons]
        refine List.rel_append ?_ (ih fun other hother => hmem _ (List.mem_cons_of_mem _ hother))
        refine (forall₂_mem (files_withForeignKeys options _ artifact)).imp fun file file' h => ?_
        exact ⟨artifact, hartifact, h.1, h.2.1, h.2.2⟩
  exact hlist (artifacts project) fun _ h => h

end Project

namespace Generator

variable {σ : Type} [Sink σ]

/-- The generator with the choice to write foreign keys made. -/
def withForeignKeys (generator : Generator σ) (write : Bool) : Generator σ :=
  { generator with options := generator.options.withForeignKeys write }

/-- The scripts that a run hands to the sink, the one that fails included. -/
def attempts (generator : Generator σ) (project : Project) : List (String × Sql.Script) :=
  Generation.attempts generator.sink (generator.plan project).events

/-- The sink after a run is left as the attempts leave it. -/
theorem sink_generateProject (generator : Generator σ) (moment : Log.Moment)
    (project : Project) :
    (generator.generateProject moment project).sink =
      written generator.sink
        ((generator.attempts project).map fun (path, script) => (path, script.text)) :=
  sink_deliver generator.sink (generator.plan project).events

theorem attempts_isPrefix (generator : Generator σ) (project : Project) :
    generator.attempts project <+: projectFiles generator.options project :=
  (Generation.attempts_isPrefix _ _).trans
    (shows_projectPlan generator.options _ project).isPrefix

section Choice

variable {generator : Generator σ} (hsink : FailsByPath generator.sink) (project : Project)

include hsink

theorem comeEquallyFar_withForeignKeys :
    ComeEquallyFar generator.sink generator.sink
      ((generator.withForeignKeys false).plan project).events
      ((generator.withForeignKeys true).plan project).events := by
  have hplans := similar_projectPlan generator.options (Sink.location generator.sink) project
  have hstart : ([] : List (String × String)).map (·.1) =
      ([] : List (String × String)).map (·.1) := rfl
  exact comeEquallyFar_of_aligned hsink hplans.events hstart

theorem failure?_withForeignKeys :
    (generator.withForeignKeys false).failure? project =
      (generator.withForeignKeys true).failure? project := by
  have hfault : ((generator.withForeignKeys false).delivery project).fault =
      ((generator.withForeignKeys true).delivery project).fault :=
    (comeEquallyFar_withForeignKeys hsink project).fault
  have hplan : ((generator.withForeignKeys false).plan project).fault? =
      ((generator.withForeignKeys true).plan project).fault? :=
    (similar_projectPlan generator.options _ project).fault?
  unfold failure?
  rw [hfault, hplan]

theorem afterFailure_withForeignKeys :
    (generator.withForeignKeys false).afterFailure project =
      (generator.withForeignKeys true).afterFailure project := by
  rw [afterFailure_eq_elim, afterFailure_eq_elim, failure?_withForeignKeys hsink]

theorem aligned_done_withForeignKeys :
    Aligned ((generator.withForeignKeys false).delivery project).done
      ((generator.withForeignKeys true).delivery project).done :=
  (comeEquallyFar_withForeignKeys hsink project).done

theorem attempts_withForeignKeys :
    List.Forall₂ (ProjectFileWithKeys generator.options project)
      ((generator.withForeignKeys false).attempts project)
      ((generator.withForeignKeys true).attempts project) := by
  have hlength : ((generator.withForeignKeys false).attempts project).length =
      ((generator.withForeignKeys true).attempts project).length := by
    have hpaths := congrArg List.length (comeEquallyFar_withForeignKeys hsink project).paths
    rwa [List.length_map, List.length_map] at hpaths
  have hfiles := projectFiles_withForeignKeys generator.options project
  have htake := List.forall₂_take
    ((generator.withForeignKeys false).attempts project).length hfiles
  have hoff := List.prefix_iff_eq_take.1 (attempts_isPrefix (generator.withForeignKeys false)
    project)
  have hon := List.prefix_iff_eq_take.1 (attempts_isPrefix (generator.withForeignKeys true)
    project)
  rw [← hlength] at hon
  rw [hoff, hon]
  exact htake

end Choice

/-- What runs without and with foreign keys have in common. -/
structure DifferByKeys (project : Project) (options : Options) (without withKeys : Generator σ)
    (run run' : Run σ) : Prop where
  /-- File by file, the runs attempt the same artifacts; only the scripts that create tables
  differ, by the foreign keys at their ends. -/
  attempts : List.Forall₂ (ProjectFileWithKeys options project) (without.attempts project)
    (withKeys.attempts project)
  paths : (without.attempts project).map (·.1) = (withKeys.attempts project).map (·.1)
  success : run.result.success = run'.result.success
  files : run.result.files = run'.result.files
  steps : run.result.steps = run'.result.steps
  errors : run.result.errors = run'.result.errors
  /-- All that is reported without foreign keys is reported with them, in the same order, and
  what is added are warnings. -/
  diagnostics : (Event.diagnostics run.events).Sublist (Event.diagnostics run'.events)
  warnings : (Event.diagnostics run.events).filter (·.severity ≠ .warning) =
    (Event.diagnostics run'.events).filter (·.severity ≠ .warning)

/-- Runs without and with foreign keys differ by the foreign keys and by warnings. -/
theorem generate_differByKeys (generator : Generator σ) (hsink : FailsByPath generator.sink)
    (moment moment' : Log.Moment) (project : Project) :
    DifferByKeys project generator.options (generator.withForeignKeys false)
      (generator.withForeignKeys true)
      ((generator.withForeignKeys false).generate moment (some (.project project)))
      ((generator.withForeignKeys true).generate moment' (some (.project project))) := by
  change DifferByKeys project generator.options (generator.withForeignKeys false)
    (generator.withForeignKeys true)
    ((generator.withForeignKeys false).generateProject moment project)
    ((generator.withForeignKeys true).generateProject moment' project)
  have hfailure := failure?_withForeignKeys hsink project
  have hafter := afterFailure_withForeignKeys hsink project
  have hdone := aligned_done_withForeignKeys hsink project
  have hdiagnostics : ∀ (generator : Generator σ) (moment : Log.Moment),
      Event.diagnostics (generator.generateProject moment project).events =
        Event.diagnostics ((generator.delivery project).done ++
          generator.afterFailure project) := by
    intro generator moment
    rw [Event.diagnostics_append]
    exact filterMap_events generator moment project (fun _ _ => rfl) fun _ _ => rfl
  have haligned := hdone.append (Aligned.refl
    ((generator.withForeignKeys false).afterFailure project))
  constructor
  · exact attempts_withForeignKeys hsink project
  · exact (comeEquallyFar_withForeignKeys hsink project).paths
  · change ((generator.withForeignKeys false).failure? project).isNone =
      ((generator.withForeignKeys true).failure? project).isNone
    rw [hfailure]
  · rw [files_result, files_result, Event.files_eq_map_scripts, Event.files_eq_map_scripts,
      List.map_map, List.map_map]
    exact hdone.paths
  · rw [steps_result, steps_result, hdone.steps, hafter]
  · change (((generator.withForeignKeys false).failure? project).map failureMessage).toList =
      (((generator.withForeignKeys true).failure? project).map failureMessage).toList
    rw [hfailure]
  · rw [hdiagnostics, hdiagnostics, ← hafter]
    exact haligned.diagnostics_sublist
  · rw [hdiagnostics, hdiagnostics, ← hafter]
    exact haligned.diagnostics_filter

/-- The runs of the project in which a table refers to a later data model. -/
theorem generate_differByKeys_purchase :
    DifferByKeys purchaseProject {} (withForeignKeys { sink := ({} : Memory) } false)
        (withForeignKeys { sink := ({} : Memory) } true)
        ((withForeignKeys { sink := ({} : Memory) } false).generate ⟨2024, 1, 1, 0, 0, 0, 0⟩
          (some (.project purchaseProject)))
        ((withForeignKeys { sink := ({} : Memory) } true).generate ⟨2024, 1, 1, 0, 0, 0, 0⟩
          (some (.project purchaseProject))) ∧
      (withForeignKeys { sink := ({} : Memory) } false).attempts purchaseProject ≠
        (withForeignKeys { sink := ({} : Memory) } true).attempts purchaseProject :=
  ⟨generate_differByKeys { sink := {} } (neverFails_memory _).failsByPath _ _ purchaseProject,
    by decide +kernel⟩

end Generator

end Generation
end ErdSql
