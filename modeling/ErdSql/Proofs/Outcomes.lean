import ErdSql.Proofs.Mirrors
import ErdSql.Proofs.QuotingStatements

/-!
# How plans end

Where the indentation is at no fault, only a text without a literal ends a plan early.  So the end
of a plan is known from the model: the plan comes to a value that the names in the model decide,
unless some artifact is to be written that holds such a text.
-/

namespace ErdSql
namespace Generation
namespace Plan

variable {α β : Type} {plan : Plan α} {next : α → Plan β} {writable writable' : Bool} {a : α}
  {b : β}

/-- The plan comes to the value if all is writable, and to the fault of a text without a literal
otherwise. -/
def EndsWith (plan : Plan α) (writable : Bool) (a : α) : Prop :=
  plan.outcome = Sql.ifWritable writable a

theorem endsWith_pure (a : α) : (Plan.pure a).EndsWith true a :=
  rfl

theorem endsWith_emit (events : List Event) : (emit events).EndsWith true () :=
  rfl

theorem endsWith_bind (h : plan.EndsWith writable a) (hnext : (next a).EndsWith writable' b) :
    (plan.bind next).EndsWith (writable && writable') b := by
  unfold EndsWith at *
  rw [bind_outcome, h]
  cases writable with
  | false => rfl
  | true => exact hnext

theorem EndsWith.congr (h : plan.EndsWith writable a) (heq : writable = writable') :
    plan.EndsWith writable' a :=
  heq ▸ h

/-- A plan that cannot fail leaves the end to what follows. -/
theorem endsWith_bind_sure (h : plan.EndsWith true a) (hnext : (next a).EndsWith writable b) :
    (plan.bind next).EndsWith writable b :=
  endsWith_bind h hnext

theorem endsWith_bind_last (h : plan.EndsWith writable a) (hnext : (next a).EndsWith true b) :
    (plan.bind next).EndsWith writable b := by
  have hbind := endsWith_bind h hnext
  rwa [Bool.and_true] at hbind

end Plan

open Plan

section Scripts

theorem endsWith_empty {options : Options} {unit : String}
    (hunit : options.indentUnit = .ok unit) :
    (Plan.ofExcept (ScriptPair.empty options)).EndsWith true (.ofUnit unit) := by
  unfold EndsWith Plan.ofExcept ScriptPair.empty
  rw [hunit]
  rfl

theorem endsWith_extend (pair : ScriptPair) (hcreate : pair.create.level = 0)
    (hdrop : pair.drop.level = 0) (create drop : List PlacedLine) :
    (Plan.ofExcept (pair.extend create drop)).EndsWith
      (create.all (·.line.isWritable) && drop.all (·.line.isWritable))
      (pair.withItems (create.map (·.item)) (drop.map (·.item))) :=
  ScriptPair.extend_eq hcreate hdrop create drop

theorem endsWith_writeIfAny (pair : ScriptPair) (options : Options) (stem : String) :
    (pair.writeIfAny options stem).EndsWith true () := by
  unfold ScriptPair.writeIfAny
  split <;> rfl

end Scripts

section Artifacts

variable (options : Options) (index : Index)

/-- Whether no text keeps the artifact from being written. -/
def Artifact.isClear (artifact : Artifact) : Bool :=
  !artifact.isWritten options || (artifact.createItems options index).all (·.line.isWritable)

theorem all_isWritable_items (lines : List PlacedLine) :
    (lines.map (·.item)).all (·.line.isWritable) = lines.all (·.line.isWritable) :=
  List.all_map

/-- Routines hold no literals. -/
theorem all_isWritable_createRoutines (kind : Sql.RoutineKind) (named : List NamedRoutine) :
    (named.flatMap fun routine => createRoutineLines kind routine.name routine.tag).all
      (·.line.isWritable) = true := by
  rw [List.all_flatMap]
  exact List.all_eq_true.2 fun _ _ => rfl

theorem isClear_routines (kind : Sql.RoutineKind) (dataModel : DataModel) :
    (Artifact.routines kind dataModel).isClear options index = true := by
  simp only [Artifact.isClear, Artifact.createItems, all_isWritable_items,
    all_isWritable_createRoutines, Bool.or_true]

theorem isClear_database (project : Project) :
    (Artifact.database project).isClear options index =
      (!(Naming.databaseName project.toElement).isValid ||
        (databaseLines options project (Naming.databaseName project.toElement).name).all
          (·.line.isWritable)) := by
  simp only [Artifact.isClear, Artifact.isWritten, Artifact.createItems, all_isWritable_items]

theorem isClear_schemas (project : Project) :
    (Artifact.schemas project).isClear options index =
      (newSchemas [] project.dataModels).all fun (dataModel, schema) =>
        (schemaLines options dataModel schema).all (·.line.isWritable) := by
  simp only [Artifact.isClear, Artifact.isWritten, Artifact.createItems, all_isWritable_items,
    List.all_flatMap]
  cases newSchemas [] project.dataModels <;> rfl

/-- The tables of a file are written if all changes of its entities can be made. -/
theorem isClear_tables (schema : String) (file : TableFile) :
    (Artifact.tables schema file).isClear options index =
      (file.edits options index schema).all Table.Edit.isWritable := by
  have hkeys : (((file.edits options index schema).filterMap Table.Edit.key?).map
      fun key => (⟨0, .statement key.statement⟩ : Sql.ScriptItem)).all (·.line.isWritable) =
        true := by
    rw [List.all_map]
    exact List.all_eq_true.2 fun key _ => key.isWritable_statement
  obtain ⟨-, -, -, hdrop⟩ := exists_blocks_edits options index schema file
  rw [Table.Edit.all_isWritable_eq, hdrop, Sql.Creation.all_isWritable_dropItems, Bool.and_true, Artifact.isClear]
  cases hgenerated : file.isGenerated with
  | true => simp only [Artifact.isWritten, Artifact.createItems, hgenerated, List.all_append, hkeys,
      Bool.and_true, Bool.not_true, Bool.false_or]
  | false =>
      have hnil := TableFile.createItems_eq_nil options index schema hgenerated
      rw [Artifact.createItems, List.append_eq_nil_iff] at hnil
      simp only [Artifact.isWritten, hgenerated, hnil.1]
      rfl

end Artifacts

section Counts

/-- The entities that become tables. -/
def TableFile.named (file : TableFile) : List Entity :=
  file.entities.filter (Table.isGenerated file.tablePrefix)

/-- The number of routines of a kind that have a name. -/
def routineCount (options : Options) (kind : Sql.RoutineKind) (dataModel : DataModel) : Nat :=
  (namedRoutines (dataModel.tags.pointingAt (routineMarker options kind))).length

/-- The number of entities of a data model that become tables. -/
def tableCount (dataModel : DataModel) : Nat :=
  ((tableFiles dataModel).flatMap TableFile.named).length

/-- The tables that are counted are those of entities whose tables have names. -/
theorem length_tables_edits (options : Options) (index : Index) (schema : String)
    (file : TableFile) :
    ((file.edits options index schema).filterMap Table.Edit.table?).length =
      file.named.length := by
  unfold TableFile.edits TableFile.named
  rw [← List.countP_eq_length_filter]
  induction file.entities with
  | nil => rfl
  | cons entity entities ih =>
      rw [List.flatMap_cons, List.filterMap_append, List.length_append, ih,
        Table.tables_entityEdits, List.countP_cons, Table.isGenerated, Nat.add_comm]
      cases Naming.prefixedTableName file.tablePrefix entity.toElement <;> rfl

end Counts

section Routines

variable {options : Options} {unit : String} (hunit : options.indentUnit = .ok unit)

include hunit

theorem endsWith_routines (kind : Sql.RoutineKind) (dataModel : DataModel) (modelName : String) :
    (routines options kind dataModel modelName).EndsWith true
      (routineCount options kind dataModel) := by
  refine endsWith_bind_sure (endsWith_empty hunit) ?_
  refine endsWith_bind_sure (endsWith_emit _) ?_
  have hcreate := all_isWritable_createRoutines kind
    (namedRoutines (dataModel.tags.pointingAt (routineMarker options kind)))
  have hdrop : ((namedRoutines (dataModel.tags.pointingAt (routineMarker options kind))).map
      fun routine => PlacedLine.ofStatement (.dropRoutine kind routine.name)).all
        (·.line.isWritable) = true := by
    rw [List.all_map]
    exact List.all_eq_true.2 fun _ _ => rfl
  have hextend := endsWith_extend (.ofUnit unit) rfl rfl
    ((namedRoutines (dataModel.tags.pointingAt (routineMarker options kind))).flatMap
      fun routine => createRoutineLines kind routine.name routine.tag)
    ((namedRoutines (dataModel.tags.pointingAt (routineMarker options kind))).map
      fun routine => .ofStatement (.dropRoutine kind routine.name))
  rw [hcreate, hdrop] at hextend
  refine endsWith_bind_sure hextend ?_
  exact endsWith_bind_sure (endsWith_writeIfAny ..) (endsWith_pure _)

theorem endsWith_database (index : Index) (project : Project) :
    (database options project).EndsWith
      ((Artifact.database project).isClear options index)
      (Naming.databaseName project.toElement).isValid := by
  refine endsWith_bind_sure (endsWith_emit _) ?_
  rw [isClear_database]
  cases hvalid : (Naming.databaseName project.toElement).isValid with
  | false => exact endsWith_pure false
  | true =>
      refine endsWith_bind_sure (endsWith_empty hunit) ?_
      have hextend := endsWith_extend (.ofUnit unit) rfl rfl
        (databaseLines options project (Naming.databaseName project.toElement).name)
        [.ofStatement (.dropDatabase (Naming.databaseName project.toElement).name)]
      have hdrop : ([PlacedLine.ofStatement (.dropDatabase
          (Naming.databaseName project.toElement).name)].all (·.line.isWritable)) = true := rfl
      rw [hdrop, Bool.and_true] at hextend
      refine endsWith_bind_last hextend ?_
      exact endsWith_bind_sure (endsWith_emit _) (endsWith_pure true)

end Routines

section Tables

variable (setting : TableSetting)

theorem endsWith_ofEdits {group : Table.Group} (hopen : group.IsOpen) (edits : List Table.Edit) :
    (Plan.ofEdits group edits).EndsWith (edits.all Table.Edit.isWritable)
      (group.extended edits) := by
  unfold EndsWith Plan.ofEdits
  simp only [Table.Group.run_eq hopen]
  cases hall : edits.all Table.Edit.isWritable with
  | false => rfl
  | true => simp only [if_true, Table.Edit.takeWhile_isWritable hall, Sql.ifWritable]

theorem endsWith_entity (tablePrefix : String) {group : Table.Group} (hopen : group.IsOpen)
    (entity : Entity) :
    (setting.entity tablePrefix group entity).EndsWith
      ((setting.edits tablePrefix entity).all Table.Edit.isWritable)
      (group.extended (setting.edits tablePrefix entity)) :=
  endsWith_bind_sure (endsWith_emit _) (endsWith_ofEdits hopen _)

theorem endsWith_entities (tablePrefix : String) {group : Table.Group} (hopen : group.IsOpen)
    (entities : List Entity) :
    (setting.entities tablePrefix group entities).EndsWith
      ((entities.flatMap (setting.edits tablePrefix)).all Table.Edit.isWritable)
      (group.extended (entities.flatMap (setting.edits tablePrefix))) := by
  induction entities generalizing group with
  | nil =>
      rw [List.flatMap_nil, Table.Group.extended_nil]
      exact endsWith_pure group
  | cons entity entities ih =>
      rw [List.flatMap_cons, List.all_append, Table.Group.extended_append]
      exact endsWith_bind (endsWith_entity setting tablePrefix hopen entity)
        (ih (hopen.extended _))

theorem endsWith_finish (stem : String) (group : Table.Group) :
    (setting.finish stem group).EndsWith true group.tables.length := by
  rw [← Table.Group.tables_flush]
  exact endsWith_bind_sure (endsWith_writeIfAny ..) (endsWith_pure _)

variable {setting} {unit : String} (hunit : setting.options.indentUnit = .ok unit)

include hunit

theorem endsWith_emptyGroup : setting.emptyGroup.EndsWith true (.empty unit) := by
  unfold EndsWith TableSetting.emptyGroup Plan.ofExcept
  rw [hunit]
  rfl

theorem endsWith_diagram (dataModel : DataModel) (diagram : Diagram) :
    (setting.diagram diagram).EndsWith
      ((Artifact.tables setting.schema (.ofDiagram dataModel diagram)).isClear setting.options
        setting.index)
      (TableFile.ofDiagram dataModel diagram).named.length := by
  rw [isClear_tables, ← length_tables_edits setting.options setting.index setting.schema]
  refine endsWith_bind_sure (endsWith_emptyGroup hunit) ?_
  have hentities := endsWith_entities setting (diagram.tags.valueOf "prefix")
    (Table.Group.isOpen_empty unit) diagram.entities
  exact endsWith_bind_last hentities (endsWith_finish setting _ _)

/-- The members of a data model write the tables of its diagrams and gather those of its loose
entities. -/
theorem endsWith_members (dataModel : DataModel) (members : List Member)
    {progress : TableSetting.Progress} (hopen : progress.loose.IsOpen) :
    (setting.members progress members).EndsWith
      (((members.filterMap (TableFile.ofMember? dataModel)).map
          (Artifact.tables setting.schema)).all
            (Artifact.isClear setting.options setting.index) &&
        ((DataModel.looseEntities { members := members }).flatMap (setting.edits "")).all
          Table.Edit.isWritable)
      { loose := progress.loose.extended
          ((DataModel.looseEntities { members := members }).flatMap (setting.edits ""))
        inDiagrams := progress.inDiagrams +
          ((members.filterMap (TableFile.ofMember? dataModel)).flatMap
            TableFile.named).length } := by
  induction members generalizing progress with
  | nil =>
      have hend : (⟨progress.loose.extended [], progress.inDiagrams⟩ : TableSetting.Progress) =
          progress := by rw [Table.Group.extended_nil]
      exact hend.symm ▸ endsWith_pure progress
  | cons member members ih =>
      cases member with
      | diagram diagram =>
          have hnext := @ih { progress with
            inDiagrams := progress.inDiagrams +
              (TableFile.ofDiagram dataModel diagram).named.length } hopen
          rw [Nat.add_assoc, ← List.length_append] at hnext
          refine EndsWith.congr (endsWith_bind (endsWith_diagram hunit dataModel diagram) hnext) ?_
          exact (Bool.and_assoc ..).symm
      | entity entity =>
          have hnext := @ih { progress with
            loose := progress.loose.extended (setting.edits "" entity) } (hopen.extended _)
          rw [← Table.Group.extended_append] at hnext
          refine EndsWith.congr (endsWith_bind (endsWith_entity setting "" hopen entity) hnext) ?_
          rw [Bool.and_left_comm, ← List.all_append]
          rfl

theorem endsWith_tables (dataModel : DataModel) :
    (setting.tables dataModel).EndsWith
      (((tableFiles dataModel).map (Artifact.tables setting.schema)).all
        (Artifact.isClear setting.options setting.index))
      (tableCount dataModel) := by
  have hopen : (⟨.empty unit, 0⟩ : TableSetting.Progress).loose.IsOpen :=
    Table.Group.isOpen_empty unit
  have hclear := isClear_tables setting.options setting.index setting.schema
    (TableFile.loose dataModel)
  have hcount := length_tables_edits setting.options setting.index setting.schema
    (TableFile.loose dataModel)
  rw [tableCount, tableFiles, List.map_append, List.all_append, List.flatMap_append,
    List.length_append, List.map_singleton, List.flatMap_singleton, ← hcount, List.all_cons, hclear,
    List.all_nil, Bool.and_true]
  refine endsWith_bind_sure (endsWith_emptyGroup hunit) ?_
  refine endsWith_bind_last (endsWith_members hunit dataModel dataModel.members hopen) ?_
  rw [Nat.zero_add]
  exact endsWith_bind_sure (endsWith_finish setting _ _) (endsWith_pure _)

end Tables

section Schemas

/-- The step of a data model: the counts of what it is made into. -/
def dataModelStep (options : Options) (model : DataModel) : StepResult :=
  let routineCounts :=
    [("functions", Json.ofNat (routineCount options .function model)),
      ("procedures", Json.ofNat (routineCount options .procedure model))]
  match Naming.schemaName model.toElement with
  | .error _ =>
      { name := dataModelStepName model
        status := .skipped
        message := "Invalid schema name, tables not generated"
        details := routineCounts }
  | .ok schema =>
      { name := dataModelStepName model
        status := .success
        message := "Generated " ++ toString (tableCount model) ++ " tables in schema " ++ schema
        details :=
          [("schema", .string schema), ("tables", .ofNat (tableCount model))] ++ routineCounts }

/-- The step of the schemas. -/
def schemasStep (project : Project) : StepResult :=
  let new := newSchemas [] project.dataModels
  if new.isEmpty then noSchemaStep else schemaStep (new.map (·.2))

variable {options : Options} {unit : String} (hunit : options.indentUnit = .ok unit)

include hunit

theorem endsWith_dataModel (index : Index) (model : DataModel) :
    (dataModel options index model).EndsWith
      ((dataModelArtifacts model).all (Artifact.isClear options index))
      ⟨dataModelStep options model, (Naming.schemaName model.toElement).toOption⟩ := by
  have hroutines : ∀ kind, (Artifact.routines kind model).isClear options index = true :=
    fun kind => isClear_routines options index kind model
  rw [dataModelArtifacts, List.all_append, List.all_cons, List.all_cons, hroutines, hroutines]
  refine endsWith_bind_sure (endsWith_routines hunit .function model _) ?_
  refine endsWith_bind_sure (endsWith_routines hunit .procedure model _) ?_
  unfold dataModelStep
  cases hschema : Naming.schemaName model.toElement with
  | error fault => exact endsWith_bind_sure (endsWith_emit _) (endsWith_pure _)
  | ok schema =>
      have htables := @endsWith_tables ⟨options, index, schema,
        Naming.normalize model.name⟩ unit hunit model
      exact endsWith_bind_last htables (endsWith_pure _)

omit hunit in
theorem endsWith_gather {scripts : SchemaScripts} (hopen : scripts.IsOpen) (model : DataModel) :
    (scripts.gather options model (Naming.schemaName model.toElement).toOption).EndsWith
      ((newSchemas scripts.names [model]).all fun (dataModel, schema) =>
        (schemaLines options dataModel schema).all (·.line.isWritable))
      (scripts.extended options (newSchemas scripts.names [model])) := by
  simp only [newSchemas]
  cases Naming.schemaName model.toElement with
  | error fault =>
      rw [SchemaScripts.extended_nil]
      exact endsWith_pure scripts
  | ok schema =>
      unfold EndsWith SchemaScripts.gather Plan.ofExcept SchemaScripts.add
      simp only [Except.toOption]
      split
      · rw [SchemaScripts.extended_nil]
        rfl
      · rw [ScriptPair.extend_eq hopen.createLevel hopen.dropLevel]
        have hdrop : ([PlacedLine.ofStatement (.dropSchema schema)].all
            (·.line.isWritable)) = true := rfl
        rw [hdrop, Bool.and_true, List.all_cons, List.all_nil, Bool.and_true]
        cases (schemaLines options model schema).all (·.line.isWritable) with
        | false => rfl
        | true => simp [Sql.ifWritable, SchemaScripts.extended, PlacedLine.item,
            PlacedLine.ofStatement]

/-- Data models come to their steps, and to the schemas that are new with them. -/
theorem endsWith_dataModels (index : Index) (models : List DataModel) {run : SchemaRun}
    (hopen : run.scripts.IsOpen) :
    (dataModels options index run models).EndsWith
      ((models.flatMap dataModelArtifacts).all (Artifact.isClear options index) &&
        (newSchemas run.scripts.names models).all fun (dataModel, schema) =>
          (schemaLines options dataModel schema).all (·.line.isWritable))
      ⟨run.scripts.extended options (newSchemas run.scripts.names models),
        run.steps ++ models.map (dataModelStep options)⟩ := by
  induction models generalizing run with
  | nil =>
      rw [newSchemas, SchemaScripts.extended_nil, List.map_nil, List.append_nil]
      exact endsWith_pure run
  | cons model models ih =>
      rw [dataModels_cons, newSchemas_cons, List.flatMap_cons, List.all_append, List.all_append,
        SchemaScripts.extended_append, List.map_cons, List.append_cons run.steps]
      have hnext := @ih ⟨run.scripts.extended options (newSchemas run.scripts.names [model]),
        run.steps ++ [dataModelStep options model]⟩ ⟨hopen.1, hopen.2⟩
      refine EndsWith.congr (endsWith_bind (endsWith_dataModel hunit index model)
        (endsWith_bind (endsWith_gather hopen model) hnext)) ?_
      rw [Bool.and_left_comm ((newSchemas run.scripts.names [model]).all _), ← Bool.and_assoc]
      rfl

omit hunit in
theorem endsWith_finishSchemas (unit : String) (project : Project) :
    (((⟨[], .ofUnit unit⟩ : SchemaScripts).extended options
      (newSchemas [] project.dataModels)).finish options).EndsWith true (schemasStep project) := by
  have hcontent : ((⟨[], .ofUnit unit⟩ : SchemaScripts).extended options
      (newSchemas [] project.dataModels)).pair.create.hasContent =
        !(newSchemas [] project.dataModels).isEmpty := by
    have hartifact := hasContent_schemas unit options (.ofProject project) project
    rwa [Artifact.scripts_eq_withItems] at hartifact
  unfold SchemaScripts.finish schemasStep
  rw [hcontent]
  cases newSchemas [] project.dataModels <;> rfl

theorem endsWith_schemas (project : Project) :
    (schemas options project).EndsWith
      ((project.dataModels.flatMap dataModelArtifacts ++ [Artifact.schemas project]).all
        (Artifact.isClear options (.ofProject project)))
      (project.dataModels.map (dataModelStep options) ++ [schemasStep project]) := by
  have hopen : (⟨{ pair := .ofUnit unit }, []⟩ : SchemaRun).scripts.IsOpen := ⟨rfl, rfl⟩
  rw [List.all_append, List.all_cons, List.all_nil, Bool.and_true, isClear_schemas]
  refine endsWith_bind_sure (endsWith_empty hunit) ?_
  refine endsWith_bind_last (endsWith_dataModels hunit _ project.dataModels hopen) ?_
  refine endsWith_bind_sure ?_ (endsWith_pure _)
  exact endsWith_finishSchemas unit project

end Schemas

/-- A plan of a project comes to its end exactly if no artifact that is to be written holds a text
without a literal. -/
theorem endsWith_projectPlan {options : Options} {unit : String}
    (hunit : options.indentUnit = .ok unit) (location : String) (project : Project) :
    (projectPlan options location project).EndsWith
      ((artifacts project).all (Artifact.isClear options (.ofProject project))) () := by
  rw [projectPlan_eq, artifacts, List.cons_append, List.all_cons]
  refine endsWith_bind (endsWith_database hunit (.ofProject project) project) ?_
  refine endsWith_bind_sure (endsWith_emit _) ?_
  refine endsWith_bind_last (endsWith_schemas hunit project) ?_
  exact endsWith_bind_sure (endsWith_emit _) (endsWith_emit _)

section Steps

/-- What a plan shows, with the value that it comes to. -/
theorem Plan.Shows.of_endsWith {α γ : Type} {view : Event → Option γ} {plan : Plan α}
    {seen : List γ} {Gives : α → Prop} {writable : Bool} {a : α} (h : Shows view plan seen Gives)
    (hend : plan.EndsWith writable a) : Shows view plan seen fun b => b = a := by
  unfold Shows at *
  cases houtcome : plan.outcome with
  | error fault =>
      rw [houtcome] at h
      exact h
  | ok b =>
      rw [houtcome] at h
      exact ⟨h.1, (Sql.ifWritable_eq_ok (hend.symm.trans houtcome)).2.symm⟩

theorem shows_steps {α : Type} {plan : Plan α} {files : List (String × Sql.Script)}
    {Gives : α → Prop} (h : Shows Event.output? plan (Event.written files) Gives) :
    Shows Event.step? plan [] Gives := by
  have hsteps := h.comp (·.getRight?)
  have hnone : (Event.written files).filterMap (·.getRight?) = [] := by
    rw [Event.written, List.filterMap_map]
    exact List.filterMap_eq_nil_iff.2 fun _ _ => rfl
  rw [hnone] at hsteps
  rw [show Event.step? = _ from funext Event.step?_eq_output?]
  exact hsteps

theorem shows_conclude (steps : List StepResult) :
    Shows Event.step? (.emit (steps.map .conclude)) steps fun _ => True := by
  refine ⟨?_, trivial⟩
  change (steps.map Event.conclude).filterMap Event.step? = steps
  rw [List.filterMap_map]
  exact List.filterMap_some

/-- The steps of a project: one for the database, one for each data model in order, and one for
the schemas. -/
def projectSteps (options : Options) (project : Project) : List StepResult :=
  (if (Naming.databaseName project.toElement).isValid then databaseStep else noDatabaseStep) ::
    project.dataModels.map (dataModelStep options) ++ [schemasStep project]

theorem shows_projectSteps {options : Options} {unit : String}
    (hunit : options.indentUnit = .ok unit) (location : String) (project : Project) :
    Shows Event.step? (projectPlan options location project) (projectSteps options project)
      fun _ => True := by
  rw [projectPlan_eq, projectSteps, List.cons_append, ← List.nil_append (_ :: _)]
  refine shows_bind ((shows_steps (shows_database options ⟨[]⟩ project)).of_endsWith
    (endsWith_database hunit ⟨[]⟩ project)) ?_
  rintro valid rfl
  rw [← List.singleton_append]
  have hconcluded : Shows Event.step?
      (databaseConclusion (Naming.databaseName project.toElement).isValid)
      [if (Naming.databaseName project.toElement).isValid then databaseStep else noDatabaseStep]
      fun _ => True := by
    cases (Naming.databaseName project.toElement).isValid <;> exact shows_emit _
  refine shows_bind hconcluded fun _ _ => ?_
  refine shows_bind_silent ((shows_steps (shows_schemas options project)).of_endsWith
    (endsWith_schemas hunit project)) ?_
  rintro steps rfl
  exact shows_bind_last (shows_conclude _) fun _ (_ : True) => shows_emit_silent rfl

end Steps

namespace Generator

variable {σ : Type} [Storage.Sink σ] (generator : Generator σ) (moment : Log.Moment)
  (project : Project)

theorem steps_of_success
    (h : (generator.generateProject moment project).result.success = true) :
    (generator.generateProject moment project).result.steps =
      projectSteps generator.options project := by
  obtain ⟨unit, hunit⟩ := exists_indentUnit_of_success generator moment project h
  obtain ⟨hfault, hplan⟩ := (success_iff generator moment project).1 h
  have hfailure : generator.failure? project = none := by
    rw [failure?_of_fault_eq_none generator project hfault, hplan]
    rfl
  rw [steps_result, steps_afterFailure, hfailure, delivery, deliver_done_of_fault_eq_none hfault]
  exact (congrArg (· ++ []) ((shows_projectSteps hunit _ project).eq_of_ok
    (outcome_of_success generator moment project h))).trans (List.append_nil _)

/-- On a sink that never fails, a run succeeds exactly if no artifact that is to be written holds
a text without a literal. -/
theorem success_iff_isClear (hsink : Storage.NeverFails generator.sink) {unit : String}
    (hunit : generator.options.indentUnit = .ok unit) :
    (generator.generateProject moment project).result.success = true ↔
      (artifacts project).all
        (Artifact.isClear generator.options (.ofProject project)) = true := by
  have hfault : (generator.delivery project).fault = none := by
    rw [delivery, deliver_of_neverFails hsink]
  have hend := endsWith_projectPlan hunit (Storage.Sink.location generator.sink) project
  rw [success_iff, and_iff_right hfault]
  unfold plan Plan.fault?
  rw [hend]
  cases (artifacts project).all (Artifact.isClear generator.options (.ofProject project)) with
  | false => simp [Sql.ifWritable]
  | true => simp [Sql.ifWritable]

end Generator

end Generation
end ErdSql
