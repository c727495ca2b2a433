import ErdSql.Proofs.Identifiers
import ErdSql.Proofs.Outcomes
import ErdSql.Proofs.Paths

/-!
# Inventory of a run

The files of a run that succeeds are known from the names in the project: a pair is written
exactly if something in it has a name, and the pairs come in the order of the project.  The run
has one step for the database, one for each data model and one for the schemas, and the step of a
data model counts what the scripts of the data model create.
-/

namespace ErdSql

namespace Sql.Creation

def isTable : Creation → Bool
  | .table _ => true
  | _ => false

def isRoutine (kind : RoutineKind) : Creation → Bool
  | .routine found _ => found = kind
  | _ => false

end Sql.Creation

/-- Whether the data model has a schema that is created. -/
def DataModel.createsSchema (model : DataModel) : Bool :=
  match Naming.schemaName model.toElement with
  | .error _ => false
  | .ok schema => schema ≠ "public"

namespace Generation

/-- The paths of the files with a stem, if something in them has a name. -/
def pathsIf (options : Options) (stem : String) (named : Bool) : List String :=
  if named then stemPaths options stem else []

/-- Whether some tag that points at the marker has a name for a routine. -/
def hasRoutine (marker : String) (tags : Tags) : Bool :=
  tags.any fun tag => tag.targets marker && (Naming.routineName tag).isOk

/-- The paths of the files of a data model: its functions, its procedures, the tables of each
diagram and the tables that are in no diagram. -/
def modelManifest (options : Options) (model : DataModel) : List String :=
  let name := Naming.normalize model.name
  pathsIf options (name ++ "_function") (hasRoutine options.functionMarker model.tags) ++
    pathsIf options (name ++ "_procedure") (hasRoutine options.procedureMarker model.tags) ++
    if (Naming.schemaName model.toElement).isOk then
      model.diagrams.flatMap (fun diagram =>
        pathsIf options (name ++ "_" ++ Naming.normalize diagram.name)
          (diagram.entities.any (Table.isGenerated (diagram.tags.valueOf "prefix")))) ++
        pathsIf options (name ++ "_table")
          (model.looseEntities.any fun entity => (Naming.tableName entity.toElement).isOk)
    else []

/-- The paths of all files of a project. -/
def manifest (options : Options) (project : Project) : List String :=
  pathsIf options "db" (Naming.databaseName project.toElement).isValid ++
    project.dataModels.flatMap (modelManifest options) ++
    pathsIf options "schema" (project.dataModels.any DataModel.createsSchema)

/-- What the scripts of the files create, in order. -/
def createdIn (files : List (String × Sql.Script)) : List Sql.Creation :=
  files.flatMap fun file => file.2.items.filterMap (·.line.created?)

/-- What a run leaves of a data model. -/
structure ModelOutput where
  files : List (String × Sql.Script)
  step : StepResult

/-- The files and the step are those of the data model, and the step counts what the files
create. -/
structure ModelOutput.Fits (options : Options) (output : ModelOutput) (model : DataModel) :
    Prop where
  paths : output.files.map (·.1) = modelManifest options model
  name : output.step.name = "data_model:" ++ model.name
  generated : ∀ schema, Naming.schemaName model.toElement = .ok schema →
    output.step.status = .success ∧
      output.step.details = [
        ("schema", .string schema),
        ("tables", .ofNat ((createdIn output.files).countP (·.isTable))),
        ("functions", .ofNat ((createdIn output.files).countP (·.isRoutine .function))),
        ("procedures", .ofNat ((createdIn output.files).countP (·.isRoutine .procedure)))]
  skipped : ∀ fault, Naming.schemaName model.toElement = .error fault →
    output.step.status = .skipped ∧
      output.step.details = [
        ("functions", .ofNat ((createdIn output.files).countP (·.isRoutine .function))),
        ("procedures", .ofNat ((createdIn output.files).countP (·.isRoutine .procedure)))]
  /-- The tables are those of the entities with a name. -/
  tables : (createdIn output.files).countP (·.isTable) =
    if (Naming.schemaName model.toElement).isOk then tableCount model else 0
  /-- The routines are those of the tags with a name. -/
  routines : ∀ kind, (createdIn output.files).countP (·.isRoutine kind) =
    routineCount options kind model

section Names

theorem isWritten_routines (options : Options) (kind : Sql.RoutineKind) (dataModel : DataModel) :
    (Artifact.routines kind dataModel).isWritten options =
      hasRoutine (routineMarker options kind) dataModel.tags := by
  simp only [Artifact.isWritten, hasRoutine, Tags.pointingAt, namedRoutines]
  induction dataModel.tags with
  | nil => rfl
  | cons tag tags ih =>
      rw [List.any_cons, ← ih]
      cases htargets : tag.targets (routineMarker options kind) with
      | false => simp [htargets]
      | true => cases hname : Naming.routineName tag <;>
          simp [htargets, hname, Except.toOption, Except.isOk, Except.toBool]

/-- Without a prefix, the name of a table is a name exactly if the table has one. -/
theorem isGenerated_empty (entity : Entity) :
    Table.isGenerated "" entity = (Naming.tableName entity.toElement).isOk := by
  unfold Table.isGenerated Naming.prefixedTableName Naming.tableName
  simp only
  split
  · rename_i fault hname
    split at hname
    · cases hname
    · rename_i hinvalid
      simp [hinvalid, Except.isOk, Except.toBool]
  · rename_i base hname
    split at hname
    · rename_i hvalid
      cases hname
      have hlower := Naming.isIdentifier_lower (Naming.isIdentifier_lower hvalid)
      simp [hvalid, hlower, String.empty_append, Except.isOk, Except.toBool]
    · cases hname

theorem isWritten_schemas (options : Options) (project : Project) :
    (Artifact.schemas project).isWritten options =
      project.dataModels.any DataModel.createsSchema := by
  have hcreates : ∀ model : DataModel, model.createsSchema = true ↔
      ∃ schema, schema ≠ Naming.publicSchema ∧
        Naming.schemaName model.toElement = .ok schema := by
    intro model
    unfold DataModel.createsSchema
    cases Naming.schemaName model.toElement with
    | error fault => simp
    | ok schema => simp [Naming.publicSchema]
  rw [Bool.eq_iff_iff, Artifact.isWritten, Bool.not_eq_true', List.isEmpty_eq_false_iff_exists_mem,
    List.any_eq_true]
  constructor
  · rintro ⟨new, hnew⟩
    obtain ⟨-, hpublic, model, hmodel, hschema⟩ := mem_newSchemas_iff.1 (List.mem_map_of_mem hnew)
    exact ⟨model, hmodel, (hcreates model).2 ⟨new.2, hpublic, hschema⟩⟩
  · rintro ⟨model, hmodel, hmodelCreates⟩
    obtain ⟨schema, hpublic, hschema⟩ := (hcreates model).1 hmodelCreates
    have hmem : schema ∈ (newSchemas [] project.dataModels).map (·.2) :=
      mem_newSchemas_iff.2 ⟨List.not_mem_nil, hpublic, model, hmodel, hschema⟩
    obtain ⟨new, hnew, -⟩ := List.mem_map.1 hmem
    exact ⟨new, hnew⟩

end Names

section Paths

variable (options : Options)

theorem flatMap_stemPaths_writtenStems (list : List Artifact) :
    (writtenStems options list).flatMap (stemPaths options) =
      list.flatMap fun artifact => pathsIf options artifact.stem (artifact.isWritten options) := by
  induction list with
  | nil => rfl
  | cons artifact list ih =>
      rw [List.flatMap_cons, ← ih, writtenStems, List.filter_cons]
      unfold pathsIf
      cases artifact.isWritten options <;> rfl

theorem map_fst_files {options : Options} {unit : String} (hunit : options.indentUnit = .ok unit)
    (index : Index) (artifact : Artifact) :
    (artifact.files options index).map (·.1) =
      pathsIf options artifact.stem (artifact.isWritten options) := by
  have hpaths := map_fst_flatMap_files hunit index [artifact]
  rwa [flatMap_stemPaths_writtenStems, List.flatMap_singleton, List.flatMap_singleton] at hpaths

theorem filterMap_ofMember? (model : DataModel) :
    model.members.filterMap (TableFile.ofMember? model) =
      model.diagrams.map (TableFile.ofDiagram model) := by
  unfold DataModel.diagrams
  rw [List.map_filterMap]
  refine List.filterMap_congr fun member _ => ?_
  cases member <;> rfl

theorem flatMap_pathsIf_dataModelArtifacts (model : DataModel) :
    ((dataModelArtifacts model).flatMap fun artifact =>
        pathsIf options artifact.stem (artifact.isWritten options)) =
      modelManifest options model := by
  have hloose : (TableFile.loose model).isGenerated =
      model.looseEntities.any fun entity => (Naming.tableName entity.toElement).isOk :=
    congrArg model.looseEntities.any (funext isGenerated_empty)
  have hfunctions : (Artifact.routines .function model).stem =
      Naming.normalize model.name ++ "_function" := String.append_assoc
  have hprocedures : (Artifact.routines .procedure model).stem =
      Naming.normalize model.name ++ "_procedure" := String.append_assoc
  have htables : ∀ schema, ((tableFiles model).map (Artifact.tables schema)).flatMap
      (fun artifact => pathsIf options artifact.stem (artifact.isWritten options)) =
        model.diagrams.flatMap (fun diagram =>
          pathsIf options (Naming.normalize model.name ++ "_" ++ Naming.normalize diagram.name)
            (diagram.entities.any (Table.isGenerated (diagram.tags.valueOf "prefix")))) ++
          pathsIf options (Naming.normalize model.name ++ "_table")
            (model.looseEntities.any fun entity => (Naming.tableName entity.toElement).isOk) := by
    intro schema
    rw [← hloose, tableFiles, filterMap_ofMember?, List.map_append, List.flatMap_append,
      List.map_map, List.flatMap_map, List.map_singleton, List.flatMap_singleton]
    rfl
  rw [dataModelArtifacts, List.flatMap_append, List.flatMap_cons, List.flatMap_singleton,
    isWritten_routines, isWritten_routines]
  simp only [modelManifest, hfunctions, hprocedures, routineMarker]
  congr 1
  cases Naming.schemaName model.toElement with
  | error fault => rfl
  | ok schema =>
      have hok : (Except.ok schema : Except Naming.NameFault String).isOk = true := rfl
      rw [if_pos hok]
      exact htables schema

/-- The paths of the files of a project are those of its manifest. -/
theorem map_fst_projectFiles {unit : String} (hunit : options.indentUnit = .ok unit)
    (project : Project) :
    (projectFiles options project).map (·.1) = manifest options project := by
  rw [projectFiles, map_fst_flatMap_files hunit, flatMap_stemPaths_writtenStems, artifacts,
    List.flatMap_append, List.flatMap_cons, List.flatMap_singleton, isWritten_schemas,
    List.flatMap_assoc, manifest]
  congr 2
  exact List.flatMap_congr fun model _ => flatMap_pathsIf_dataModelArtifacts options model

end Paths

section Created

theorem createdIn_append (earlier later : List (String × Sql.Script)) :
    createdIn (earlier ++ later) = createdIn earlier ++ createdIn later :=
  List.flatMap_append

theorem createdIn_flatMap {α : Type} (list : List α) (f : α → List (String × Sql.Script)) :
    createdIn (list.flatMap f) = list.flatMap fun a => createdIn (f a) :=
  List.flatMap_assoc

variable (options : Options) (index : Index)

theorem created_block {table : String} {entity : Entity} {items : List Sql.ScriptItem}
    (h : Table.IsBlock table entity items) :
    items.filterMap (·.line.created?) =
      (Table.enumsOf table entity).map (fun (type, _) => .enumeration type) ++ [.table table] := by
  obtain ⟨rest, hitems, hrest⟩ := h.layout
  have hnone : rest.filterMap (·.line.created?) = [] := List.filterMap_eq_nil_iff.2 hrest
  have htypes : ∀ types : List (String × List String),
      (Table.typeItems types).filterMap (·.line.created?) =
        types.map fun (type, _) => .enumeration type := by
    intro types
    induction types with
    | nil => rfl
    | cons type types ih => exact congrArg (_ :: ·) ih
  rw [hitems, List.filterMap_append, htypes]
  congr 1
  exact congrArg (_ :: ·) hnone

/-- Tables are created one after the other, each with its types before it. -/
theorem created_tables (schema : String) (file : TableFile) :
    ((Artifact.tables schema file).createItems options index).filterMap (·.line.created?) =
      (file.generated schema).flatMap fun named =>
        (Table.enumsOf named.1 named.2).map (fun (type, _) => .enumeration type) ++
          [.table named.1] := by
  obtain ⟨blocks, hblocks, hcreate, -⟩ := exists_blocks_edits options index schema file
  have hkeys : (((file.edits options index schema).filterMap Table.Edit.key?).map
      fun key => (⟨0, .statement key.statement⟩ : Sql.ScriptItem)).filterMap
        (·.line.created?) = [] := by
    rw [List.filterMap_map]
    refine List.filterMap_eq_nil_iff.2 fun key _ => ?_
    cases key <;> rfl
  rw [Artifact.createItems, List.filterMap_append, hkeys, List.append_nil, hcreate]
  clear hcreate
  generalize file.generated schema = named at hblocks ⊢
  induction hblocks with
  | nil => rfl
  | cons hblock _ ih =>
      rw [List.flatten_cons, List.filterMap_append, created_block hblock, List.flatMap_cons, ih]

/-- The files of an artifact create what its first script does. -/
theorem createdIn_files {options : Options} {unit : String} (hunit : options.indentUnit = .ok unit)
    {artifact : Artifact}
    (hdrop : (artifact.dropItems options index).filterMap (·.line.created?) = []) :
    createdIn (artifact.files options index) =
      if artifact.isWritten options then
        (artifact.createItems options index).filterMap (·.line.created?)
      else [] := by
  rw [Artifact.files_of_indentUnit hunit]
  split
  · unfold createdIn ScriptPair.files Artifact.scripts
    split
    · simp [hdrop]
    · simp
  · rfl

variable {options} {unit : String} (hunit : options.indentUnit = .ok unit)

include hunit

theorem createdIn_routines (kind : Sql.RoutineKind) (model : DataModel) :
    createdIn ((Artifact.routines kind model).files options index) =
      (namedRoutines (model.tags.pointingAt (routineMarker options kind))).map
        fun routine => .routine kind routine.name := by
  have hdrop : ((Artifact.routines kind model).dropItems options index).filterMap
      (·.line.created?) = [] := by
    rw [Artifact.dropItems, List.filterMap_map]
    exact List.filterMap_eq_nil_iff.2 fun _ _ => rfl
  rw [createdIn_files index hunit hdrop, Artifact.createItems, created_routines]
  split
  · rfl
  · rename_i hnone
    have hempty : namedRoutines (model.tags.pointingAt (routineMarker options kind)) = [] := by
      simpa [Artifact.isWritten] using hnone
    rw [hempty]
    rfl

theorem createdIn_tables (schema : String) (file : TableFile) :
    createdIn ((Artifact.tables schema file).files options index) =
      (file.generated schema).flatMap fun named =>
        (Table.enumsOf named.1 named.2).map (fun (type, _) => .enumeration type) ++
          [.table named.1] := by
  have hdrop : ((Artifact.tables schema file).dropItems options index).filterMap
      (·.line.created?) = [] := by
    obtain ⟨-, -, -, hdrop⟩ := exists_blocks_edits options index schema file
    rw [Artifact.dropItems, hdrop, List.filterMap_map]
    refine List.filterMap_eq_nil_iff.2 fun creation _ => ?_
    cases creation <;> rfl
  rw [createdIn_files index hunit hdrop, ← created_tables options index]
  split
  · rfl
  · rename_i hwritten
    rw [TableFile.createItems_eq_nil options index schema (Bool.eq_false_iff.2 hwritten)]
    rfl

end Created

section Counts

theorem length_generated (schema : String) (file : TableFile) :
    (file.generated schema).length = file.named.length := by
  unfold TableFile.generated TableFile.named
  rw [List.length_filterMap_eq_countP, ← List.countP_eq_length_filter]
  congr 1
  funext entity
  unfold Table.isGenerated
  cases Naming.prefixedTableName file.tablePrefix entity.toElement <;> rfl

variable {options : Options} {unit : String} (hunit : options.indentUnit = .ok unit) (index : Index)

include hunit

theorem countP_isTable_tables (schema : String) (file : TableFile) :
    (createdIn ((Artifact.tables schema file).files options index)).countP (·.isTable) =
      file.named.length := by
  rw [createdIn_tables index hunit, ← length_generated schema]
  induction file.generated schema with
  | nil => rfl
  | cons named rest ih =>
      have htypes : ((Table.enumsOf named.1 named.2).map
          fun (type, _) => Sql.Creation.enumeration type).countP (·.isTable) = 0 := by
        rw [List.countP_map]
        exact List.countP_eq_zero.2 fun _ _ => by simp [Sql.Creation.isTable]
      rw [List.flatMap_cons, List.countP_append, List.countP_append, htypes, ih,
        List.countP_singleton, List.length_cons]
      simp [Sql.Creation.isTable, Nat.add_comm]

theorem countP_isRoutine_tables (kind : Sql.RoutineKind) (schema : String) (file : TableFile) :
    (createdIn ((Artifact.tables schema file).files options index)).countP (·.isRoutine kind) =
      0 := by
  rw [createdIn_tables index hunit]
  refine List.countP_eq_zero.2 fun creation hcreation => ?_
  obtain ⟨named, -, hmem⟩ := List.mem_flatMap.1 hcreation
  rcases List.mem_append.1 hmem with hmem | hmem
  · obtain ⟨type, -, rfl⟩ := List.mem_map.1 hmem
    simp [Sql.Creation.isRoutine]
  · rw [List.mem_singleton.1 hmem]
    simp [Sql.Creation.isRoutine]

theorem countP_isTable_routines (kind : Sql.RoutineKind) (model : DataModel) :
    (createdIn ((Artifact.routines kind model).files options index)).countP (·.isTable) = 0 := by
  rw [createdIn_routines index hunit, List.countP_map]
  exact List.countP_eq_zero.2 fun _ _ => by simp [Sql.Creation.isTable]

theorem countP_isRoutine_routines (kind kind' : Sql.RoutineKind) (model : DataModel) :
    (createdIn ((Artifact.routines kind' model).files options index)).countP (·.isRoutine kind) =
      if kind' = kind then routineCount options kind model else 0 := by
  rw [createdIn_routines index hunit, List.countP_map]
  split
  · rename_i heq
    subst heq
    exact List.countP_eq_length.2 fun _ _ => by simp [Sql.Creation.isRoutine]
  · rename_i hne
    exact List.countP_eq_zero.2 fun _ _ => by simpa [Sql.Creation.isRoutine] using hne

theorem countP_isTable_tableFiles (schema : String) (files : List TableFile) :
    (createdIn ((files.map (Artifact.tables schema)).flatMap
      (Artifact.files options index))).countP (·.isTable) =
        (files.flatMap TableFile.named).length := by
  induction files with
  | nil => rfl
  | cons file files ih =>
      rw [List.map_cons, List.flatMap_cons, createdIn_append, List.countP_append, ih,
        countP_isTable_tables hunit, List.flatMap_cons, List.length_append]

theorem countP_isRoutine_tableFiles (kind : Sql.RoutineKind) (schema : String)
    (files : List TableFile) :
    (createdIn ((files.map (Artifact.tables schema)).flatMap
      (Artifact.files options index))).countP (·.isRoutine kind) = 0 := by
  induction files with
  | nil => rfl
  | cons file files ih =>
      rw [List.map_cons, List.flatMap_cons, createdIn_append, List.countP_append, ih,
        countP_isRoutine_tables hunit]

/-- The files of a data model create as many tables and routines as have names. -/
theorem countP_dataModelArtifacts (model : DataModel) :
    (createdIn ((dataModelArtifacts model).flatMap (Artifact.files options index))).countP
        (·.isTable) =
      (if (Naming.schemaName model.toElement).isOk then tableCount model else 0) ∧
    ∀ kind, (createdIn ((dataModelArtifacts model).flatMap (Artifact.files options index))).countP
        (·.isRoutine kind) = routineCount options kind model := by
  simp only [dataModelArtifacts, List.flatMap_append, List.flatMap_cons, List.flatMap_nil,
    List.append_nil, createdIn_append, List.countP_append, countP_isTable_routines hunit,
    countP_isRoutine_routines hunit]
  constructor
  · cases Naming.schemaName model.toElement with
    | error fault => rfl
    | ok schema =>
        exact (Nat.zero_add _).trans (countP_isTable_tableFiles hunit index schema _)
  · intro kind
    have hkinds :
        ((if Sql.RoutineKind.function = kind then routineCount options kind model else 0) +
          if Sql.RoutineKind.procedure = kind then routineCount options kind model else 0) =
            routineCount options kind model := by
      cases kind <;> simp
    rw [hkinds]
    cases Naming.schemaName model.toElement with
    | error fault => rfl
    | ok schema => exact congrArg (_ + ·) (countP_isRoutine_tableFiles hunit index kind schema _)

end Counts

section Outputs

/-- What a run leaves of a data model if it succeeds. -/
def modelOutput (options : Options) (index : Index) (model : DataModel) : ModelOutput where
  files := (dataModelArtifacts model).flatMap (Artifact.files options index)
  step := dataModelStep options model

theorem fits_modelOutput {options : Options} {unit : String}
    (hunit : options.indentUnit = .ok unit) (index : Index) (model : DataModel) :
    (modelOutput options index model).Fits options model := by
  obtain ⟨htables, hroutines⟩ := countP_dataModelArtifacts hunit index model
  refine ⟨?_, ?_, ?_, ?_, htables, hroutines⟩
  · change ((dataModelArtifacts model).flatMap (Artifact.files options index)).map (·.1) = _
    rw [map_fst_flatMap_files hunit, flatMap_stemPaths_writtenStems,
      flatMap_pathsIf_dataModelArtifacts]
  · change (dataModelStep options model).name = _
    unfold dataModelStep
    cases Naming.schemaName model.toElement <;> rfl
  · intro schema hschema
    simp only [modelOutput, htables, hroutines, dataModelStep, hschema]
    exact ⟨trivial, rfl⟩
  · intro fault hschema
    simp only [modelOutput, hroutines, dataModelStep, hschema]
    exact ⟨trivial, trivial⟩

end Outputs

namespace Generator

/-- The files of a run that succeeds are those of the manifest, and its steps are one for the
database, one for each data model, which counts what the files of the data model create, and one
for the schemas. -/
theorem generate_manifest {σ : Type} [Storage.Sink σ] (generator : Generator σ)
    (moment : Log.Moment) (project : Project)
    (hsuccess :
      (generator.generate moment (some (.project project))).result.success = true) :
    (generator.generate moment (some (.project project))).result.files =
        manifest generator.options project ∧
      ∃ (first last : List (String × Sql.Script)) (outputs : List ModelOutput),
        Event.scripts (generator.generate moment (some (.project project))).events =
            first ++ outputs.flatMap (·.files) ++ last ∧
          first.map (·.1) =
            pathsIf generator.options "db" (Naming.databaseName project.toElement).isValid ∧
          last.map (·.1) =
            pathsIf generator.options "schema" (project.dataModels.any (·.createsSchema)) ∧
          List.Forall₂ (ModelOutput.Fits generator.options) outputs project.dataModels ∧
          (generator.generate moment (some (.project project))).result.steps =
            (if (Naming.databaseName project.toElement).isValid then databaseStep
              else noDatabaseStep) :: outputs.map (·.step) ++ [schemasStep project] := by
  obtain ⟨unit, hunit⟩ := exists_indentUnit_of_success generator moment project hsuccess
  have hscripts : Event.scripts (generator.generate moment (some (.project project))).events =
      projectFiles generator.options project :=
    scripts_of_success generator moment project hsuccess
  have hfiles : (generator.generate moment (some (.project project))).result.files =
      (projectFiles generator.options project).map (·.1) := by
    rw [← hscripts]
    exact files_result_eq_map_scripts generator moment project
  have hsteps : (generator.generate moment (some (.project project))).result.steps =
      projectSteps generator.options project :=
    steps_of_success generator moment project hsuccess
  refine ⟨hfiles.trans (map_fst_projectFiles _ hunit project),
    (Artifact.database project).files generator.options (.ofProject project),
    (Artifact.schemas project).files generator.options (.ofProject project),
    project.dataModels.map (modelOutput generator.options (.ofProject project)), ?_, ?_, ?_, ?_, ?_⟩
  · rw [hscripts, projectFiles, artifacts, List.flatMap_append, List.flatMap_cons,
      List.flatMap_singleton, List.flatMap_assoc, List.flatMap_map]
    rfl
  · exact map_fst_files hunit _ (.database project)
  · rw [map_fst_files hunit, isWritten_schemas]
    rfl
  · rw [List.forall₂_map_left_iff, List.forall₂_same]
    exact fun model _ => fits_modelOutput hunit _ model
  · rw [hsteps, List.map_map]
    rfl

/-- A project with a routine and two diagrams in a schema of its own, where the tables of the
second diagram have no names; the other data model has a procedure only, for its schema has no
name. -/
def warehouseProject : Project :=
  { name := "Warehouse"
    dataModels := [
      { name := "Main Stock"
        tags := [
          .ofString "schema" "stock",
          { name := "refill-all", kind := .reference, reference := some { name := "function" } }]
        members := [
          .diagram {
            name := "Items"
            tags := [.ofString "prefix" "t_"]
            entities := [{ name := "Item" }, { name := "Price of item" }] },
          .entity { name := "Journal" },
          .diagram { name := "Drafts", entities := [{ name := "2nd draft" }] }] },
      { name := "Archive"
        tags := [
          .ofString "schema" "old-1",
          { name := "sweep", kind := .reference, reference := some { name := "procedure" } }]
        members := [.entity { name := "Shelf" }] }] }

/-- The second diagram and the tables of the second data model have no files. -/
theorem generate_manifest_warehouse :
    (memoryGenerator.generate newYear (some (.project warehouseProject))).result.files =
        manifest {} warehouseProject ∧
      manifest {} warehouseProject =
        ["db_create.sql", "db_drop.sql", "main_stock_function_create.sql",
          "main_stock_function_drop.sql", "main_stock_items_create.sql",
          "main_stock_items_drop.sql", "main_stock_table_create.sql", "main_stock_table_drop.sql",
          "archive_procedure_create.sql", "archive_procedure_drop.sql", "schema_create.sql",
          "schema_drop.sql"] ∧
      (memoryGenerator.generate newYear (some (.project warehouseProject))).result.steps.map
          (·.message) =
        ["", "Generated 3 tables in schema stock", "Invalid schema name, tables not generated",
          "Generated 1 schemas"] := by
  have hsuccess :
      (memoryGenerator.generate newYear (some (.project warehouseProject))).result.success =
        true := by
    decide +kernel
  exact ⟨(generate_manifest memoryGenerator newYear warehouseProject hsuccess).1,
    by decide +kernel, by decide +kernel⟩

end Generator

end Generation
end ErdSql
