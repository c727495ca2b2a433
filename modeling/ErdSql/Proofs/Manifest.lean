import ErdSql.Proofs.Agreement
import ErdSql.Proofs.Pairs

/-!
# What the plan of a project writes

The plan of a project writes the files of its artifacts, whole and in their order.  If it ends
early it has written a beginning of them, and up to then no step has failed.
-/

namespace ErdSql

/-- What an event adds to the output of a run: a script to its files, or a step to its
result. -/
def Event.output? (event : Event) : Option ((String × Sql.Script) ⊕ StepResult) :=
  match event.action with
  | .write path script => some (.inl (path, script))
  | .conclude step => some (.inr step)
  | _ => none

@[simp] theorem Event.output?_within (context : Log.Context) (event : Event) :
    (event.within context).output? = event.output? := rfl

theorem Event.output?_of_isTalk {event : Event} (h : event.isTalk = true) :
    event.output? = none := by
  rcases action_of_isTalk h with ⟨d, haction⟩ | ⟨level, logger, message, cause, haction⟩
  · simp [output?, haction]
  · simp [output?, haction]

theorem Event.script?_eq_output? (event : Event) :
    event.script? = event.output?.bind (·.getLeft?) := by
  unfold script? output?
  cases event.action <;> rfl

theorem Event.step?_eq_output? (event : Event) :
    event.step? = event.output?.bind (·.getRight?) := by
  unfold step? output?
  cases event.action <;> rfl

/-- The output that consists of scripts. -/
def Event.written (files : List (String × Sql.Script)) :
    List ((String × Sql.Script) ⊕ StepResult) :=
  files.map .inl

theorem Event.written_append (earlier later : List (String × Sql.Script)) :
    Event.written (earlier ++ later) = Event.written earlier ++ Event.written later :=
  List.map_append

namespace Generation

open Plan

variable {options : Options} {index : Index}

section Pairs

theorem shows_empty (options : Options) :
    Shows Event.output? (.ofExcept (ScriptPair.empty options)) [] fun pair =>
      ∃ unit, options.indentUnit = .ok unit ∧ pair = .ofUnit unit :=
  shows_ofExcept fun _ h => ScriptPair.empty_ok h

theorem shows_extend {pair : ScriptPair} (create drop : List PlacedLine)
    (hcreate : pair.create.level = 0) (hdrop : pair.drop.level = 0) :
    Shows Event.output? (.ofExcept (pair.extend create drop)) [] fun extended =>
      extended = pair.withItems (create.map (·.item)) (drop.map (·.item)) :=
  shows_ofExcept fun _ h => ScriptPair.extend_ok hcreate hdrop h

theorem shows_write (pair : ScriptPair) (options : Options) (stem : String) :
    Shows Event.output? (pair.write options stem) (Event.written (pair.files options stem))
      fun _ => True := by
  have hevents : ((pair.files options stem).map fun file =>
      Event.write file.1 file.2).filterMap Event.output? =
        Event.written (pair.files options stem) := by
    rw [List.filterMap_map]
    exact congrFun List.filterMap_eq_map' _
  rw [← hevents]
  exact shows_emit _

theorem shows_writeIfAny (pair : ScriptPair) (options : Options) (stem : String) :
    Shows Event.output? (pair.writeIfAny options stem)
      (Event.written (if pair.create.hasContent then pair.files options stem else []))
      fun _ => True := by
  unfold ScriptPair.writeIfAny
  split
  · exact shows_write pair options stem
  · exact shows_pure trivial

end Pairs

theorem shows_database (options : Options) (index : Index) (project : Project) :
    Shows Event.output? (database options project)
      (Event.written ((Artifact.database project).files options index)) fun _ => True := by
  have hnames : (databaseNameEvents project
      (Naming.databaseName project.toElement)).filterMap Event.output? = [] := by
    unfold databaseNameEvents
    cases (Naming.databaseName project.toElement).fault <;>
      cases (Naming.databaseName project.toElement).assignment <;> rfl
  refine shows_bind_silent (shows_emit_silent hnames) fun _ _ => ?_
  split
  · rename_i hvalid
    refine shows_bind_silent (shows_empty options) ?_
    rintro pair ⟨unit, hunit, rfl⟩
    refine shows_bind_silent (shows_extend _ _ rfl rfl) ?_
    rintro pair rfl
    refine shows_bind_last ?_ fun _ (_ : True) => shows_pure trivial
    have hwritten : (Artifact.database project).isWritten options = true := hvalid
    rw [Artifact.files_of_indentUnit hunit, if_pos hwritten, Artifact.scripts_eq_withItems]
    exact shows_write _ options databaseStem
  · rename_i hvalid
    have hwritten : ¬ (Artifact.database project).isWritten options = true := hvalid
    have hfiles : (Artifact.database project).files options index = [] := by
      unfold Artifact.files
      split
      · rfl
      · rw [if_neg hwritten]
    rw [hfiles]
    exact shows_pure trivial

theorem shows_routines (options : Options) (index : Index) (kind : Sql.RoutineKind)
    (dataModel : DataModel) :
    Shows Event.output?
      (routines options kind dataModel (Naming.normalize dataModel.name))
      (Event.written ((Artifact.routines kind dataModel).files options index))
      fun _ => True := by
  refine shows_bind_silent (shows_empty options) ?_
  rintro pair ⟨unit, hunit, rfl⟩
  refine shows_bind_silent (shows_emit_map fun _ _ => rfl) fun _ _ => ?_
  refine shows_bind_silent (shows_extend _ _ rfl rfl) ?_
  rintro pair rfl
  refine shows_bind_last ?_ fun _ (_ : True) => shows_pure trivial
  have hcontent := hasContent_routines unit options index kind dataModel
  rw [Artifact.files_of_indentUnit hunit, ← hcontent, Artifact.scripts_eq_withItems]
  have hdrops : (Artifact.routines kind dataModel).dropItems options index =
      ((namedRoutines (dataModel.tags.pointingAt (routineMarker options kind))).map
        fun routine => PlacedLine.ofStatement (.dropRoutine kind routine.name)).map
          (·.item) := by
    rw [List.map_map]
    rfl
  rw [hdrops]
  exact shows_writeIfAny _ options _

section Tables

/-- Changes to an open group show what happens meanwhile. -/
theorem shows_events_ofEdits {γ : Type} {view : Event → Option γ} {group : Table.Group}
    (hopen : group.IsOpen) (edits : List Table.Edit) :
    Shows view (.ofEdits group edits) ((edits.filterMap Table.Edit.event?).filterMap view)
      fun next => next = group.extended edits := by
  unfold Shows Plan.ofEdits
  simp only [Table.Group.run_eq hopen]
  by_cases hall : edits.all Table.Edit.isWritable = true
  · simp only [if_pos hall, Table.Edit.takeWhile_isWritable hall]
    exact ⟨trivial, trivial⟩
  · simp only [if_neg hall]
    exact ((List.takeWhile_prefix _).filterMap _).filterMap _

/-- Changes that only talk add what they add to the group, if they can all be made. -/
theorem shows_ofEdits {group : Table.Group} (hopen : group.IsOpen) {edits : List Table.Edit}
    (htalk : ∀ edit ∈ edits, ∀ event, edit.event? = some event → event.isTalk = true) :
    Shows Event.output? (.ofEdits group edits) [] fun next => next = group.extended edits := by
  have hsilent : (edits.filterMap Table.Edit.event?).filterMap Event.output? = [] := by
    refine List.filterMap_eq_nil_iff.2 fun event hevent => ?_
    obtain ⟨edit, hedit, hevent⟩ := List.mem_filterMap.1 hevent
    exact Event.output?_of_isTalk (htalk edit hedit event hevent)
  have hshown : Shows Event.output? (.ofEdits group edits) _ _ := shows_events_ofEdits hopen edits
  rwa [hsilent] at hshown

variable (setting : TableSetting)

/-- The changes that an entity makes. -/
abbrev TableSetting.edits (tablePrefix : String) (entity : Entity) : List Table.Edit :=
  Table.entityEdits setting.options setting.index setting.schema tablePrefix entity

theorem shows_entity (tablePrefix : String) {group : Table.Group} (hopen : group.IsOpen)
    (entity : Entity) :
    Shows Event.output? (setting.entity tablePrefix group entity) [] fun next =>
      next = group.extended (setting.edits tablePrefix entity) := by
  refine shows_bind_silent (shows_emit_silent rfl) fun _ _ => ?_
  refine shows_within _ (Event.output?_within _) (shows_ofEdits hopen ?_)
  intro edit hedit event hevent
  exact Table.isTalk_of_mem_entityEdits _ _ _ _ _ hedit hevent

/-- An entity only tells what happens; what it adds to the scripts stays in its group. -/
theorem only_isTalk_entity (tablePrefix : String) (group : Table.Group) (entity : Entity) :
    (setting.entity tablePrefix group entity).Only fun event => event.isTalk = true := by
  refine only_bind (only_emit (List.forall_mem_singleton.2 rfl)) fun _ =>
    only_within _ (fun _ h => h) fun event hevent => ?_
  obtain ⟨edit, hedit, hevent⟩ := Table.Group.exists_edit_of_mem_events_run hevent
  exact Table.isTalk_of_mem_entityEdits _ _ _ _ _ hedit hevent

theorem shows_entities (tablePrefix : String) {group : Table.Group} (hopen : group.IsOpen)
    (entities : List Entity) :
    Shows Event.output? (setting.entities tablePrefix group entities) [] fun next =>
      next = group.extended (entities.flatMap (setting.edits tablePrefix)) := by
  induction entities generalizing group with
  | nil => exact shows_pure (Table.Group.extended_nil group).symm
  | cons entity entities ih =>
      refine shows_bind_silent (shows_entity setting tablePrefix hopen entity) ?_
      rintro next rfl
      refine (ih (hopen.extended _)).imp fun last hlast => ?_
      rw [hlast, List.flatMap_cons, Table.Group.extended_append]

theorem flush_eq_scripts {unit : String} {file : TableFile} {group : Table.Group}
    (hgroup : group = (Table.Group.empty unit).extended
      (file.edits setting.options setting.index setting.schema)) :
    ScriptPair.mk group.flush.1.create group.flush.1.drop =
      (Artifact.tables setting.schema file).scripts unit setting.options setting.index := by
  have hopen : group.IsOpen := hgroup ▸ (Table.Group.isOpen_empty unit).extended _
  rw [Table.Group.create_flush hopen, Table.Group.drop_flush, hgroup]
  simp [Artifact.scripts, Artifact.createItems, Artifact.dropItems, Table.Group.extended,
    Table.Group.empty, Sql.Script.empty]

theorem shows_finish {unit : String} (hunit : setting.options.indentUnit = .ok unit)
    {file : TableFile} {stem : String} (hstem : stem = file.stem) {group : Table.Group}
    (hgroup : group = (Table.Group.empty unit).extended
      (file.edits setting.options setting.index setting.schema)) :
    Shows Event.output? (setting.finish stem group)
      (Event.written
        ((Artifact.tables setting.schema file).files setting.options setting.index))
      fun _ => True := by
  refine shows_bind_last ?_ fun _ (_ : True) => shows_pure trivial
  have hcontent := hasContent_tables unit setting.options setting.index setting.schema file
  rw [Artifact.files_of_indentUnit hunit, ← hcontent, flush_eq_scripts setting hgroup, hstem]
  exact shows_writeIfAny _ _ _

theorem shows_emptyGroup {γ : Type} {view : Event → Option γ} :
    Shows view setting.emptyGroup [] fun group =>
      ∃ unit, setting.options.indentUnit = .ok unit ∧ group = .empty unit := by
  refine shows_ofExcept fun group h => ?_
  cases hunit : setting.options.indentUnit with
  | error fault =>
      rw [hunit] at h
      cases h
  | ok unit =>
      rw [hunit] at h
      cases h
      exact ⟨unit, rfl, rfl⟩

theorem shows_diagram {dataModel : DataModel}
    (hmodel : setting.modelName = Naming.normalize dataModel.name) (diagram : Diagram) :
    Shows Event.output? (setting.diagram diagram)
      (Event.written ((Artifact.tables setting.schema (.ofDiagram dataModel diagram)).files
        setting.options setting.index))
      fun _ => True := by
  refine shows_bind_silent (shows_emptyGroup setting) ?_
  rintro group ⟨unit, hunit, rfl⟩
  refine shows_bind_silent (shows_within _ (Event.output?_within _)
    (shows_entities setting _ (Table.Group.isOpen_empty unit) diagram.entities)) ?_
  intro group hgroup
  refine shows_finish setting hunit ?_ hgroup
  rw [TableSetting.diagramStem, hmodel]
  rfl

/-- The members of a data model write the files of its diagrams; its loose entities add their
changes to a group of their own. -/
theorem shows_members {dataModel : DataModel}
    (hmodel : setting.modelName = Naming.normalize dataModel.name) (members : List Member)
    {progress : TableSetting.Progress} (hopen : progress.loose.IsOpen) :
    Shows Event.output? (setting.members progress members)
      (Event.written (((members.filterMap (TableFile.ofMember? dataModel)).map
        (Artifact.tables setting.schema)).flatMap
          (Artifact.files setting.options setting.index)))
      fun last => last.loose = progress.loose.extended
        ((DataModel.looseEntities { members := members }).flatMap (setting.edits "")) := by
  induction members generalizing progress with
  | nil => exact shows_pure (Table.Group.extended_nil progress.loose).symm
  | cons member members ih =>
      cases member with
      | diagram diagram =>
          have hfiles : ((Member.diagram diagram :: members).filterMap
              (TableFile.ofMember? dataModel)).map (Artifact.tables setting.schema) =
                .tables setting.schema (.ofDiagram dataModel diagram) ::
                  (members.filterMap (TableFile.ofMember? dataModel)).map
                    (Artifact.tables setting.schema) := rfl
          rw [hfiles, List.flatMap_cons, Event.written_append]
          refine shows_bind (shows_diagram setting hmodel diagram) fun count _ => ?_
          have hnext : ({ progress with
              inDiagrams := progress.inDiagrams + count } : TableSetting.Progress).loose.IsOpen :=
            hopen
          exact ih hnext
      | entity entity =>
          -- a loose entity writes nothing: it waits in its group for the last member
          refine shows_bind_silent (shows_entity setting "" hopen entity) ?_
          rintro loose rfl
          have hnext : ({ progress with
              loose := progress.loose.extended (setting.edits "" entity) } :
                TableSetting.Progress).loose.IsOpen := hopen.extended _
          refine (ih hnext).imp fun last hlast => ?_
          rw [hlast, ← Table.Group.extended_append]
          rfl

theorem shows_tables {dataModel : DataModel}
    (hmodel : setting.modelName = Naming.normalize dataModel.name) :
    Shows Event.output? (setting.tables dataModel)
      (Event.written (((tableFiles dataModel).map (Artifact.tables setting.schema)).flatMap
        (Artifact.files setting.options setting.index)))
      fun _ => True := by
  refine shows_bind_silent (shows_emptyGroup setting) ?_
  rintro group ⟨unit, hunit, rfl⟩
  have hopen : (⟨.empty unit, 0⟩ : TableSetting.Progress).loose.IsOpen :=
    Table.Group.isOpen_empty unit
  have hstem : setting.looseStem = (TableFile.loose dataModel).stem := by
    rw [TableSetting.looseStem, hmodel]
    rfl
  rw [tableFiles, List.map_append, List.flatMap_append, Event.written_append]
  refine shows_bind (shows_members setting hmodel dataModel.members hopen) ?_
  intro progress hprogress
  refine shows_bind_last ?_ fun _ (_ : True) => shows_pure trivial
  rw [List.map_singleton, List.flatMap_singleton]
  exact shows_finish setting hunit hstem hprogress

end Tables

section Schemas

/-- The scripts of the schemas with new schemas created. -/
def SchemaScripts.extended (scripts : SchemaScripts) (options : Options)
    (new : List (DataModel × String)) : SchemaScripts where
  names := scripts.names ++ new.map (·.2)
  pair := scripts.pair.withItems
    ((new.flatMap fun (dataModel, schema) => schemaLines options dataModel schema).map (·.item))
    (new.map fun (_, schema) => ⟨0, .statement (.dropSchema schema)⟩)

/-- Scripts of schemas whose next line stands at the outermost level. -/
structure SchemaScripts.IsOpen (scripts : SchemaScripts) : Prop where
  createLevel : scripts.pair.create.level = 0
  dropLevel : scripts.pair.drop.level = 0

theorem SchemaScripts.extended_nil (scripts : SchemaScripts) (options : Options) :
    scripts.extended options [] = scripts := by
  simp [extended, ScriptPair.withItems]

theorem SchemaScripts.extended_append (scripts : SchemaScripts) (options : Options)
    (earlier later : List (DataModel × String)) :
    scripts.extended options (earlier ++ later) =
      (scripts.extended options earlier).extended options later := by
  simp [extended, ScriptPair.withItems]

theorem SchemaScripts.add_ok {scripts added : SchemaScripts} (hopen : scripts.IsOpen)
    {dataModel : DataModel} {schema : String}
    (hschema : Naming.schemaName dataModel.toElement = .ok schema)
    (h : scripts.add options dataModel schema = .ok added) :
    added = scripts.extended options (newSchemas scripts.names [dataModel]) := by
  unfold add at h
  simp only [newSchemas, hschema]
  split at h
  · rename_i hseen
    cases h
    rw [if_pos hseen, extended_nil]
  · rename_i hseen
    rw [if_neg hseen]
    cases hextend : scripts.pair.extend (schemaLines options dataModel schema)
        [.ofStatement (.dropSchema schema)] with
    | error fault =>
        rw [hextend] at h
        cases h
    | ok pair =>
        rw [hextend] at h
        cases h
        rw [ScriptPair.extend_ok hopen.createLevel hopen.dropLevel hextend]
        simp [extended, PlacedLine.item, PlacedLine.ofStatement]

theorem newSchemas_cons (seen : List String) (dataModel : DataModel) (rest : List DataModel) :
    newSchemas seen (dataModel :: rest) =
      newSchemas seen [dataModel] ++
        newSchemas (seen ++ (newSchemas seen [dataModel]).map (·.2)) rest := by
  simp only [newSchemas]
  cases Naming.schemaName dataModel.toElement with
  | error fault => simp
  | ok schema =>
      simp only
      split
      · simp
      · simp

/-- A data model writes the files of its routines and its tables; its step has not failed. -/
theorem shows_dataModel (options : Options) (index : Index) (model : DataModel) :
    Shows Event.output? (dataModel options index model)
      (Event.written ((dataModelArtifacts model).flatMap (Artifact.files options index)))
      fun generated => generated.step.status ≠ .failed ∧
        generated.schema = (Naming.schemaName model.toElement).toOption := by
  rw [dataModelArtifacts, List.flatMap_append, List.flatMap_cons, List.flatMap_singleton,
    List.append_assoc, Event.written_append, Event.written_append]
  refine shows_bind (shows_routines options index .function model) fun functions _ => ?_
  refine shows_bind (shows_routines options index .procedure model) fun procedures _ => ?_
  cases hschema : Naming.schemaName model.toElement with
  | error fault =>
      refine shows_bind_silent (shows_emit_silent rfl) fun _ _ => shows_pure ⟨?_, rfl⟩
      nofun
  | ok schema =>
      refine shows_bind_last (shows_tables ⟨options, index, schema, _⟩ rfl)
        fun tables (_ : True) => shows_pure ⟨?_, rfl⟩
      nofun

/-- The scripts of the schemas after a data model. -/
def SchemaScripts.gather (scripts : SchemaScripts) (options : Options) (model : DataModel) :
    Option String → Plan SchemaScripts
  | some schema => .ofExcept (scripts.add options model schema)
  | none => .pure scripts

theorem dataModels_cons (options : Options) (index : Index) (run : SchemaRun)
    (model : DataModel) (models : List DataModel) :
    dataModels options index run (model :: models) =
      ((dataModel options index model).within { dataModel := some model.name }).bind
        fun generated => (run.scripts.gather options model generated.schema).bind fun scripts =>
          dataModels options index ⟨scripts, run.steps ++ [generated.step]⟩ models := by
  rw [dataModels, bind_eq]
  congr 1
  funext generated
  cases generated.schema <;> rfl

/-- Data models write their files one after the other and gather the new schemas. -/
theorem shows_dataModels (options : Options) (index : Index) (models : List DataModel)
    {run : SchemaRun} (hopen : run.scripts.IsOpen)
    (hsteps : ∀ step ∈ run.steps, step.status ≠ .failed) :
    Shows Event.output? (dataModels options index run models)
      (Event.written ((models.flatMap dataModelArtifacts).flatMap
        (Artifact.files options index)))
      fun last =>
        last.scripts = run.scripts.extended options (newSchemas run.scripts.names models) ∧
          ∀ step ∈ last.steps, step.status ≠ .failed := by
  induction models generalizing run with
  | nil => exact shows_pure ⟨(SchemaScripts.extended_nil _ _).symm, hsteps⟩
  | cons model models ih =>
      rw [dataModels_cons, List.flatMap_cons, List.flatMap_append, Event.written_append]
      refine shows_bind (shows_within _ (Event.output?_within _)
        (shows_dataModel options index model)) ?_
      rintro ⟨step, schema⟩ ⟨hstep, hschema⟩
      -- the value of the step is needed here: it tells which schema is gathered
      have hadded : Shows Event.output? (run.scripts.gather options model schema) []
          fun added =>
            added = run.scripts.extended options (newSchemas run.scripts.names [model]) := by
        cases hname : Naming.schemaName model.toElement with
        | error fault =>
            rw [hname] at hschema
            subst hschema
            refine shows_pure ?_
            rw [newSchemas, hname]
            exact (SchemaScripts.extended_nil _ _).symm
        | ok name =>
            rw [hname] at hschema
            subst hschema
            exact shows_ofExcept fun added h => SchemaScripts.add_ok hopen hname h
      refine shows_bind_silent hadded ?_
      rintro added rfl
      have hnext : (⟨run.scripts.extended options (newSchemas run.scripts.names [model]),
          run.steps ++ [step]⟩ : SchemaRun).scripts.IsOpen := ⟨hopen.1, hopen.2⟩
      refine (ih hnext ?_).imp fun last hlast => ⟨?_, hlast.2⟩
      · exact List.forall_mem_append.2 ⟨hsteps, List.forall_mem_singleton.2 hstep⟩
      · rw [hlast.1, ← SchemaScripts.extended_append]
        congr 1
        exact (newSchemas_cons _ _ _).symm

theorem shows_schemas (options : Options) (project : Project) :
    Shows Event.output? (schemas options project)
      (Event.written
        ((project.dataModels.flatMap dataModelArtifacts ++ [Artifact.schemas project]).flatMap
          (Artifact.files options (.ofProject project))))
      fun steps => (∃ unit, options.indentUnit = .ok unit) ∧
        ∀ step ∈ steps, step.status ≠ .failed := by
  refine shows_bind_silent (shows_empty options) ?_
  rintro pair ⟨unit, hunit, rfl⟩
  have hopen : (⟨{ pair := .ofUnit unit }, []⟩ : SchemaRun).scripts.IsOpen := ⟨rfl, rfl⟩
  rw [List.flatMap_append, Event.written_append, List.flatMap_singleton]
  refine shows_bind (shows_dataModels options _ project.dataModels hopen (by nofun)) ?_
  rintro ⟨scripts, steps⟩ ⟨hscripts, hsteps⟩
  have hpair : scripts.pair =
      (Artifact.schemas project).scripts unit options (.ofProject project) := by
    rw [Artifact.scripts_eq_withItems]
    exact congrArg SchemaScripts.pair hscripts
  have hcontent := hasContent_schemas unit options (.ofProject project) project
  have hfinish : Shows Event.output? (scripts.finish options)
      (Event.written ((Artifact.schemas project).files options (.ofProject project)))
      fun step => step.status ≠ .failed := by
    rw [Artifact.files_of_indentUnit hunit, ← hcontent, ← hpair]
    unfold SchemaScripts.finish
    split
    · refine shows_bind_last (shows_write _ options schemaStem) fun _ (_ : True) =>
        shows_pure ?_
      nofun
    · exact shows_pure (by nofun)
  refine shows_bind_last hfinish fun step hstep => shows_pure ⟨⟨unit, hunit⟩, ?_⟩
  exact List.forall_mem_append.2 ⟨hsteps, List.forall_mem_singleton.2 hstep⟩

end Schemas

section Project

theorem getLeft?_written (files : List (String × Sql.Script)) :
    (Event.written files).filterMap (·.getLeft?) = files := by
  rw [Event.written, List.filterMap_map]
  exact List.filterMap_some

theorem shows_scripts {α : Type} {plan : Plan α} {files : List (String × Sql.Script)}
    {Gives : α → Prop} (h : Shows Event.output? plan (Event.written files) Gives) :
    Shows Event.script? plan files Gives := by
  have hscripts := h.comp (·.getLeft?)
  rw [getLeft?_written] at hscripts
  rw [show Event.script? = fun event => event.output?.bind (·.getLeft?) from
    funext Event.script?_eq_output?]
  exact hscripts

/-- What is concluded about the database, whose name can be used or not. -/
def databaseConclusion (valid : Bool) : Plan Unit :=
  .emit (if valid then
      [progress "Database creation files completed.", .conclude databaseStep]
    else [.conclude noDatabaseStep])

theorem projectPlan_eq (options : Options) (location : String) (project : Project) :
    projectPlan options location project =
      (database options project).bind fun valid => (databaseConclusion valid).bind fun _ =>
        (schemas options project).bind fun steps => (Plan.emit (steps.map .conclude)).bind
          fun _ => .emit [progress ("Project DDL files generated in " ++ location)] := by
  rw [projectPlan, bind_eq]
  congr 1
  funext valid
  cases valid <;> rfl

/-- The plan of a project writes the files of its artifacts. -/
theorem shows_projectPlan (options : Options) (location : String) (project : Project) :
    Shows Event.script? (projectPlan options location project) (projectFiles options project)
      fun _ => ∃ unit, options.indentUnit = .ok unit := by
  have hfiles : projectFiles options project =
      (Artifact.database project).files options (.ofProject project) ++
        (project.dataModels.flatMap dataModelArtifacts ++ [Artifact.schemas project]).flatMap
          (Artifact.files options (.ofProject project)) := by
    rw [projectFiles, artifacts, List.cons_append, List.flatMap_cons]
  rw [hfiles, projectPlan_eq]
  refine shows_bind (shows_scripts (shows_database options _ project)) fun valid _ => ?_
  have hconcluded : Shows Event.script? (databaseConclusion valid) [] fun _ => True := by
    cases valid <;> exact shows_emit_silent rfl
  refine shows_bind_silent hconcluded fun _ _ => ?_
  refine shows_bind_last (shows_scripts (shows_schemas options project)) fun steps hsteps => ?_
  exact shows_bind_silent (shows_emit_map fun _ _ => rfl) fun _ _ =>
    (shows_emit_silent rfl).imp fun _ _ => hsteps.1

/-- Whether an event concludes a step that has failed. -/
def failedStep? (event : Event) : Option StepResult :=
  event.step?.filter (·.status = .failed)

theorem failedStep?_eq_output? (event : Event) :
    failedStep? event =
      event.output?.bind fun output => output.getRight?.filter (·.status = .failed) := by
  rw [failedStep?, Event.step?_eq_output?]
  cases event.output? <;> rfl

theorem shows_failedSteps {α : Type} {plan : Plan α} {files : List (String × Sql.Script)}
    {Gives : α → Prop} (h : Shows Event.output? plan (Event.written files) Gives) :
    Shows failedStep? plan [] Gives := by
  have hsteps := h.comp fun output => output.getRight?.filter (·.status = .failed)
  have hnone : (Event.written files).filterMap
      (fun output => output.getRight?.filter (·.status = .failed)) = [] := by
    rw [Event.written, List.filterMap_map]
    exact List.filterMap_eq_nil_iff.2 fun _ _ => rfl
  rw [hnone] at hsteps
  rw [show failedStep? = _ from funext failedStep?_eq_output?]
  exact hsteps

/-- No step that the plan of a project concludes has failed. -/
theorem status_ne_failed_of_mem_steps_projectPlan {options : Options} {location : String}
    {project : Project} {step : StepResult}
    (h : step ∈ Event.steps (projectPlan options location project).events) :
    step.status ≠ .failed := by
  have hplan : Shows failedStep? (projectPlan options location project) []
      fun _ => True := by
    rw [projectPlan_eq]
    refine shows_bind_silent (shows_failedSteps (shows_database options ⟨[]⟩ project))
      fun valid _ => ?_
    have hconcluded : Shows failedStep? (databaseConclusion valid) [] fun _ => True := by
      cases valid <;> exact shows_emit_silent rfl
    refine shows_bind_silent hconcluded fun _ _ => ?_
    refine shows_bind_silent (shows_failedSteps (shows_schemas options project))
      fun steps hsteps => ?_
    refine shows_bind_silent (shows_emit_map fun step hstep => ?_) fun _ _ =>
      shows_emit_silent rfl
    change (some step).filter (·.status = .failed) = none
    rw [Option.filter_some, if_neg (by simpa using hsteps.2 step hstep)]
  have hnone := List.eq_nil_of_prefix_nil hplan.isPrefix
  intro hfailed
  obtain ⟨event, hevent, hstep⟩ := List.mem_filterMap.1 h
  have hmem : step ∈ (projectPlan options location project).events.filterMap failedStep? := by
    refine List.mem_filterMap.2 ⟨event, hevent, ?_⟩
    rw [failedStep?, hstep]
    simp [hfailed]
  rw [hnone] at hmem
  cases hmem

end Project

section Location

/-- Plans with the same output that come to the same end. -/
abbrev SameOutput {α : Type} (plan other : Plan α) : Prop :=
  Agree Event.output? plan other

/-- The output of a project does not depend on where it goes. -/
theorem sameOutput_projectPlan (options : Options) (location location' : String)
    (project : Project) :
    SameOutput (projectPlan options location project)
      (projectPlan options location' project) := by
  rw [projectPlan_eq, projectPlan_eq]
  refine agree_bind (.refl _) fun valid _ => agree_bind (.refl _) fun _ _ =>
    agree_bind (.refl _) fun steps _ => agree_bind (.refl _) fun _ _ => agree_emit ?_
  rfl

theorem SameOutput.files {plan other : Plan Unit} (h : SameOutput plan other) :
    Event.files plan.events = Event.files other.events := by
  have hscripts : ∀ events : List Event,
      Event.scripts events = (events.filterMap Event.output?).filterMap (·.getLeft?) := by
    intro events
    rw [List.filterMap_filterMap]
    exact congrArg (events.filterMap ·) (funext Event.script?_eq_output?)
  rw [Event.files_eq_map_scripts, Event.files_eq_map_scripts, hscripts, hscripts, h.seen]

theorem SameOutput.steps {plan other : Plan Unit} (h : SameOutput plan other) :
    Event.steps plan.events = Event.steps other.events := by
  have hsteps : ∀ events : List Event,
      Event.steps events = (events.filterMap Event.output?).filterMap (·.getRight?) := by
    intro events
    rw [List.filterMap_filterMap]
    exact congrArg (events.filterMap ·) (funext Event.step?_eq_output?)
  rw [hsteps, hsteps, h.seen]

theorem SameOutput.fault? {plan other : Plan Unit} (h : SameOutput plan other) :
    plan.fault? = other.fault? := by
  unfold Plan.fault?
  rw [h.outcome]

end Location

end Generation
end ErdSql
