import ErdSql.Proofs.Manifest

/-!
# Scripts without faults

A line enters a script only if all texts in it have a literal.  So every script under
construction is sound, whatever is added to it, and so is every script that is written: a plan
that comes upon a text without a literal ends before it writes the script that would hold it.
-/

namespace ErdSql

namespace Sql

/-- Whether all texts in the script have a literal. -/
def Script.isSound (script : Script) : Bool :=
  script.items.all (·.line.isWritable)

namespace Script

theorem isSound_addAt {script : Script} (h : script.isSound = true) (depth : Nat) {line : Line}
    (hline : line.isWritable = true) : (script.addAt depth line).isSound = true := by
  unfold isSound at *
  rw [addAt, List.all_append, h, List.all_cons, hline, List.all_nil]
  rfl

theorem isSound_of_write {script next : Script} {depth : Nat} {line : Line}
    (h : script.isSound = true) (hwrite : script.write depth line = .ok next) :
    next.isSound = true := by
  unfold write at hwrite
  split at hwrite
  · rename_i hline
    cases hwrite
    exact isSound_addAt h depth hline
  · cases hwrite

end Script
end Sql

/-- The script that the event writes, if it is not sound. -/
def Event.unsound? (event : Event) : Option (String × Sql.Script) :=
  event.script?.filter fun (_, script) => !script.isSound

theorem Event.unsound?_eq_output? (event : Event) :
    event.unsound? = event.output?.bind fun output =>
      output.getLeft?.filter fun (_, script) => !script.isSound := by
  rw [unsound?, script?_eq_output?]
  cases event.output? <;> rfl

theorem Event.unsound?_of_isTalk {event : Event} (h : event.isTalk = true) :
    event.unsound? = none := by
  rw [unsound?_eq_output?, output?_of_isTalk h]
  rfl

namespace Table
namespace Group

/-- A group both of whose scripts are sound. -/
structure IsSound (group : Group) : Prop where
  create : group.create.isSound = true
  drop : group.drop.isSound = true

theorem isSound_of_apply {group next : Group} {edit : Edit} (h : group.IsSound)
    (happly : group.apply edit = .ok next) : next.IsSound := by
  cases edit with
  | event e =>
      cases happly
      exact h
  | create depth line =>
      simp only [apply] at happly
      cases hwrite : group.create.write depth line with
      | error fault =>
          rw [hwrite] at happly
          cases happly
      | ok script =>
          rw [hwrite] at happly
          cases happly
          exact ⟨Sql.Script.isSound_of_write h.create hwrite, h.drop⟩
  | drop line =>
      simp only [apply] at happly
      cases hwrite : group.drop.write 0 line with
      | error fault =>
          rw [hwrite] at happly
          cases happly
      | ok script =>
          rw [hwrite] at happly
          cases happly
          exact ⟨h.create, Sql.Script.isSound_of_write h.drop hwrite⟩
  | defer key =>
      simp only [apply, defer] at happly
      split at happly
      · cases happly
      · cases happly
        exact ⟨h.create, h.drop⟩
  | complete table =>
      cases happly
      exact ⟨h.create, h.drop⟩

/-- Changes leave the scripts sound, however many of them can be made. -/
theorem isSound_run {group : Group} (h : group.IsSound) (edits : List Edit) :
    (group.run edits).group.IsSound := by
  induction edits generalizing group with
  | nil => exact h
  | cons edit edits ih =>
      rw [run]
      cases happly : group.apply edit with
      | error fault => exact h
      | ok next => exact ih (isSound_of_apply h happly)

/-- The foreign keys that were put off hold no literals. -/
theorem isSound_flush {group : Group} (h : group.IsSound) : group.flush.1.IsSound := by
  unfold flush
  split
  · exact h
  · refine ⟨?_, h.drop⟩
    rw [foldl_add]
    unfold Sql.Script.isSound
    rw [List.all_append, Bool.and_eq_true, List.all_map]
    exact ⟨h.create, List.all_eq_true.2 fun key _ => key.isWritable_statement⟩

end Group
end Table

namespace Generation

open Plan

/-- A pair of sound scripts. -/
structure ScriptPair.IsSound (pair : ScriptPair) : Prop where
  create : pair.create.isSound = true
  drop : pair.drop.isSound = true

/-- A plan all of whose scripts are sound, even if it ends early. -/
abbrev WritesSound {α : Type} (plan : Plan α) (Gives : α → Prop) : Prop :=
  Shows Event.unsound? plan [] Gives

section Pairs

theorem isSound_extend {script extended : Sql.Script} {lines : List PlacedLine}
    (h : script.isSound = true) (hextend : extend script lines = .ok extended) :
    extended.isSound = true := by
  induction lines generalizing script with
  | nil =>
      cases hextend
      exact h
  | cons placed lines ih =>
      rw [extend] at hextend
      cases hwrite : script.write placed.depth placed.line with
      | error fault =>
          rw [hwrite] at hextend
          cases hextend
      | ok next =>
          rw [hwrite] at hextend
          exact ih (Sql.Script.isSound_of_write h hwrite) hextend

theorem ScriptPair.isSound_of_extend {pair extended : ScriptPair} {create drop : List PlacedLine}
    (h : pair.IsSound) (hextend : pair.extend create drop = .ok extended) : extended.IsSound := by
  unfold ScriptPair.extend at hextend
  split at hextend
  · cases hextend
  · rename_i createdScript hcreate
    split at hextend
    · cases hextend
    · rename_i dropScript hdrop
      cases hextend
      exact ⟨isSound_extend h.create hcreate, isSound_extend h.drop hdrop⟩

theorem writesSound_empty (options : Options) :
    WritesSound (.ofExcept (ScriptPair.empty options)) ScriptPair.IsSound := by
  refine shows_ofExcept fun pair hpair => ?_
  obtain ⟨unit, -, rfl⟩ := ScriptPair.empty_ok hpair
  exact ⟨rfl, rfl⟩

theorem writesSound_extend {pair : ScriptPair} (h : pair.IsSound) (create drop : List PlacedLine) :
    WritesSound (.ofExcept (pair.extend create drop)) ScriptPair.IsSound :=
  shows_ofExcept fun _ hextend => ScriptPair.isSound_of_extend h hextend

theorem writesSound_write {pair : ScriptPair} (h : pair.IsSound) (options : Options)
    (stem : String) : WritesSound (pair.write options stem) fun _ => True := by
  refine shows_emit_map fun file hfile => ?_
  have hsound : file.2.isSound = true := by
    rcases List.mem_cons.1 hfile with rfl | hfile
    · exact h.create
    · split at hfile
      · rw [List.mem_singleton.1 hfile]
        exact h.drop
      · cases hfile
  change (some file).filter (fun file => !file.2.isSound) = none
  rw [Option.filter_some, hsound]
  rfl

theorem writesSound_writeIfAny {pair : ScriptPair} (h : pair.IsSound) (options : Options)
    (stem : String) : WritesSound (pair.writeIfAny options stem) fun _ => True := by
  unfold ScriptPair.writeIfAny
  split
  · exact writesSound_write h options stem
  · exact shows_pure trivial

end Pairs

theorem writesSound_database (options : Options) (project : Project) :
    WritesSound (database options project) fun _ => True := by
  have hnames : (databaseNameEvents project
      (Naming.databaseName project.toElement)).filterMap Event.unsound? = [] := by
    unfold databaseNameEvents
    cases (Naming.databaseName project.toElement).fault <;>
      cases (Naming.databaseName project.toElement).assignment <;> rfl
  refine shows_bind_silent (shows_emit_silent hnames) fun _ _ => ?_
  split
  · refine shows_bind_silent (writesSound_empty options) fun pair hpair => ?_
    refine shows_bind_silent (writesSound_extend hpair _ _) fun extended hextended => ?_
    exact shows_bind_silent (writesSound_write hextended ..) fun _ _ => shows_pure trivial
  · exact shows_pure trivial

theorem writesSound_routines (options : Options) (kind : Sql.RoutineKind)
    (dataModel : DataModel) (modelName : String) :
    WritesSound (routines options kind dataModel modelName) fun _ => True := by
  refine shows_bind_silent (writesSound_empty options) fun pair hpair => ?_
  refine shows_bind_silent (shows_emit_map fun _ _ => rfl) fun _ _ => ?_
  refine shows_bind_silent (writesSound_extend hpair _ _) fun extended hextended => ?_
  exact shows_bind_silent (writesSound_writeIfAny hextended ..) fun _ _ => shows_pure trivial

section Tables

variable (setting : TableSetting)

theorem writesSound_ofEdits {group : Table.Group} (h : group.IsSound) {edits : List Table.Edit}
    (htalk : ∀ edit ∈ edits, ∀ event, edit.event? = some event → event.isTalk = true) :
    WritesSound (.ofEdits group edits) Table.Group.IsSound := by
  have hsilent : (group.run edits).events.filterMap Event.unsound? = [] := by
    refine List.filterMap_eq_nil_iff.2 fun event hevent => ?_
    obtain ⟨edit, hedit, hevent⟩ := Table.Group.exists_edit_of_mem_events_run hevent
    exact Event.unsound?_of_isTalk (htalk edit hedit event hevent)
  unfold WritesSound Shows Plan.ofEdits
  simp only [hsilent]
  cases (group.run edits).fault with
  | some fault => exact List.prefix_refl _
  | none => exact ⟨trivial, Table.Group.isSound_run h edits⟩

theorem writesSound_entity (tablePrefix : String) {group : Table.Group} (h : group.IsSound)
    (entity : Entity) :
    WritesSound (setting.entity tablePrefix group entity) Table.Group.IsSound := by
  refine shows_bind_silent (shows_emit_silent rfl) fun _ _ => ?_
  refine shows_within _ (fun _ => rfl) (writesSound_ofEdits h ?_)
  intro edit hedit event hevent
  exact Table.isTalk_of_mem_entityEdits _ _ _ _ _ hedit hevent

theorem writesSound_entities (tablePrefix : String) {group : Table.Group} (h : group.IsSound)
    (entities : List Entity) :
    WritesSound (setting.entities tablePrefix group entities) Table.Group.IsSound := by
  induction entities generalizing group with
  | nil => exact shows_pure h
  | cons entity entities ih =>
      exact shows_bind_silent (writesSound_entity setting tablePrefix h entity)
        fun next hnext => ih hnext

theorem writesSound_finish {group : Table.Group} (h : group.IsSound) (stem : String) :
    WritesSound (setting.finish stem group) fun _ => True := by
  have hflushed := Table.Group.isSound_flush h
  exact shows_bind_silent (writesSound_writeIfAny ⟨hflushed.create, hflushed.drop⟩ ..)
    fun _ _ => shows_pure trivial

theorem writesSound_emptyGroup : WritesSound setting.emptyGroup Table.Group.IsSound := by
  refine (shows_ofExcept fun group h => ?_)
  cases hunit : setting.options.indentUnit with
  | error fault =>
      rw [hunit] at h
      cases h
  | ok unit =>
      rw [hunit] at h
      cases h
      exact ⟨rfl, rfl⟩

theorem writesSound_diagram (diagram : Diagram) :
    WritesSound (setting.diagram diagram) fun _ => True := by
  refine shows_bind_silent (writesSound_emptyGroup setting) fun group hgroup => ?_
  refine shows_bind_silent (shows_within _ (fun _ => rfl)
    (writesSound_entities setting _ hgroup diagram.entities)) fun group hgroup => ?_
  exact writesSound_finish setting hgroup _

/-- Diagrams are written on the way; the group of the loose entities stays sound meanwhile. -/
theorem writesSound_members (members : List Member) {progress : TableSetting.Progress}
    (h : progress.loose.IsSound) :
    WritesSound (setting.members progress members) fun last => last.loose.IsSound := by
  induction members generalizing progress with
  | nil => exact shows_pure h
  | cons member members ih =>
      cases member with
      | diagram diagram =>
          exact shows_bind_silent (writesSound_diagram setting diagram) fun count _ => ih h
      | entity entity =>
          exact shows_bind_silent (writesSound_entity setting "" h entity)
            fun loose hloose => ih hloose

theorem writesSound_tables (dataModel : DataModel) :
    WritesSound (setting.tables dataModel) fun _ => True := by
  refine shows_bind_silent (writesSound_emptyGroup setting) fun group hgroup => ?_
  have hstart : (⟨group, 0⟩ : TableSetting.Progress).loose.IsSound := hgroup
  refine shows_bind_silent (writesSound_members setting dataModel.members hstart)
    fun progress hprogress => ?_
  exact shows_bind_silent (writesSound_finish setting hprogress _) fun _ _ => shows_pure trivial

end Tables

section Schemas

theorem writesSound_dataModel (options : Options) (index : Index) (model : DataModel) :
    WritesSound (dataModel options index model) fun _ => True := by
  refine shows_bind_silent (writesSound_routines options .function model _) fun _ _ => ?_
  refine shows_bind_silent (writesSound_routines options .procedure model _) fun _ _ => ?_
  cases Naming.schemaName model.toElement with
  | error fault => exact shows_bind_silent (shows_emit_silent rfl) fun _ _ => shows_pure trivial
  | ok schema =>
      exact shows_bind_silent (writesSound_tables ⟨options, index, schema, _⟩ model)
        fun _ _ => shows_pure trivial

theorem writesSound_gather {scripts : SchemaScripts} (h : scripts.pair.IsSound)
    (options : Options) (model : DataModel) (schema : Option String) :
    WritesSound (scripts.gather options model schema) fun added => added.pair.IsSound := by
  cases schema with
  | none => exact shows_pure h
  | some schema =>
      refine shows_ofExcept fun added hadded => ?_
      unfold SchemaScripts.add at hadded
      split at hadded
      · cases hadded
        exact h
      · split at hadded
        · cases hadded
        · rename_i pair hextend
          cases hadded
          exact ScriptPair.isSound_of_extend h hextend

theorem writesSound_dataModels (options : Options) (index : Index) (models : List DataModel)
    {run : SchemaRun} (h : run.scripts.pair.IsSound) :
    WritesSound (dataModels options index run models) fun last => last.scripts.pair.IsSound := by
  induction models generalizing run with
  | nil => exact shows_pure h
  | cons model models ih =>
      rw [dataModels_cons]
      refine shows_bind_silent (shows_within _ (fun _ => rfl)
        (writesSound_dataModel options index model)) fun generated _ => ?_
      exact shows_bind_silent (writesSound_gather h options model _) fun scripts hscripts =>
        ih hscripts

theorem writesSound_schemas (options : Options) (project : Project) :
    WritesSound (schemas options project) fun _ => True := by
  refine shows_bind_silent (writesSound_empty options) fun pair hpair => ?_
  have hstart : (⟨{ pair := pair }, []⟩ : SchemaRun).scripts.pair.IsSound := hpair
  refine shows_bind_silent (writesSound_dataModels options _ project.dataModels hstart)
    fun run hrun => ?_
  have hfinish : WritesSound (run.scripts.finish options) fun _ => True := by
    unfold SchemaScripts.finish
    split
    · exact shows_bind_silent (writesSound_write hrun ..) fun _ _ => shows_pure trivial
    · exact shows_pure trivial
  exact shows_bind_silent hfinish fun _ _ => shows_pure trivial

end Schemas

theorem writesSound_projectPlan (options : Options) (location : String) (project : Project) :
    WritesSound (projectPlan options location project) fun _ => True := by
  rw [projectPlan_eq]
  refine shows_bind_silent (writesSound_database options project) fun valid _ => ?_
  have hconcluded : WritesSound (databaseConclusion valid) fun _ => True := by
    cases valid <;> exact shows_emit_silent rfl
  refine shows_bind_silent hconcluded fun _ _ => ?_
  refine shows_bind_silent (writesSound_schemas options project) fun steps _ => ?_
  exact shows_bind_silent (shows_emit_map fun _ _ => rfl) fun _ _ => shows_emit_silent rfl

/-- Every script that the plan of a project writes is sound. -/
theorem isSound_of_mem_scripts {options : Options} {location : String} {project : Project}
    {file : String × Sql.Script}
    (h : file ∈ Event.scripts (projectPlan options location project).events) :
    file.2.isSound = true := by
  have hnone := List.eq_nil_of_prefix_nil
    (writesSound_projectPlan options location project).isPrefix
  obtain ⟨event, hevent, hscript⟩ := List.mem_filterMap.1 h
  have hevent := List.filterMap_eq_nil_iff.1 hnone event hevent
  rw [Event.unsound?, hscript, Option.filter_some] at hevent
  simpa using hevent

end Generation
end ErdSql
