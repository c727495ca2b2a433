import ErdSql.Generation.Run
import ErdSql.Proofs.Entities

/-!
# What a project is generated into

The artifacts of a project in the order in which they are written: the database, then for each
data model its functions, its procedures, the tables of each diagram and the tables that are in
no diagram, and last the schemas.  An artifact has its scripts whole, whatever becomes of the
others, and it is written unless nothing in it has a name.
-/

namespace ErdSql
namespace Generation

/-- The line as part of a script. -/
def PlacedLine.item (placed : PlacedLine) : Sql.ScriptItem :=
  ⟨placed.depth, placed.line⟩

/-- The tables that share a pair of scripts. -/
structure TableFile where
  stem : String
  tablePrefix : String
  entities : List Entity

namespace TableFile

/-- The tables of a diagram. -/
def ofDiagram (dataModel : DataModel) (diagram : Diagram) : TableFile where
  stem := Naming.normalize dataModel.name ++ "_" ++ Naming.normalize diagram.name
  tablePrefix := diagram.tags.valueOf "prefix"
  entities := diagram.entities

/-- The tables of a member that is a diagram. -/
def ofMember? (dataModel : DataModel) : Member → Option TableFile
  | .diagram diagram => some (ofDiagram dataModel diagram)
  | .entity _ => none

/-- The tables that are in no diagram. -/
def loose (dataModel : DataModel) : TableFile where
  stem := Naming.normalize dataModel.name ++ "_table"
  tablePrefix := ""
  entities := dataModel.looseEntities

/-- All changes that the entities make to their group. -/
def edits (options : Options) (index : Index) (schema : String) (file : TableFile) :
    List Table.Edit :=
  file.entities.flatMap (Table.entityEdits options index schema file.tablePrefix)

/-- The foreign keys that the columns of the entities call for, entity by entity. -/
def foreignKeys (index : Index) (schema : String) (file : TableFile) : List Sql.ForeignKey :=
  file.entities.flatMap (Table.entityForeignKeys index schema file.tablePrefix)

/-- Whether some entity becomes a table. -/
def isGenerated (file : TableFile) : Bool :=
  file.entities.any (Table.isGenerated file.tablePrefix)

end TableFile

/-- The tables of a data model by the scripts they share. -/
def tableFiles (dataModel : DataModel) : List TableFile :=
  dataModel.members.filterMap (TableFile.ofMember? dataModel) ++ [TableFile.loose dataModel]

/-- The schemas to create when some are there already, each with the first data model in it. -/
def newSchemas (seen : List String) : List DataModel → List (DataModel × String)
  | [] => []
  | dataModel :: rest =>
      match Naming.schemaName dataModel.toElement with
      | .error _ => newSchemas seen rest
      | .ok schema =>
          if schema = Naming.publicSchema || seen.contains schema then newSchemas seen rest
          else (dataModel, schema) :: newSchemas (seen ++ [schema]) rest

/-- Something with a pair of scripts of its own. -/
inductive Artifact where
  | database (project : Project)
  | routines (kind : Sql.RoutineKind) (dataModel : DataModel)
  | tables (schema : String) (file : TableFile)
  | schemas (project : Project)

namespace Artifact

/-- The common stem of the files. -/
def stem : Artifact → String
  | database _ => databaseStem
  | routines kind dataModel => routineStem (Naming.normalize dataModel.name) kind
  | tables _ file => file.stem
  | schemas _ => schemaStem

/-- Whether something in the artifact has a name, so that there is something to write. -/
def isWritten (options : Options) : Artifact → Bool
  | database project => (Naming.databaseName project.toElement).isValid
  | routines kind dataModel =>
      !(namedRoutines (dataModel.tags.pointingAt (routineMarker options kind))).isEmpty
  | tables _ file => file.isGenerated
  | schemas project => !(newSchemas [] project.dataModels).isEmpty

/-- The script that creates the artifact. -/
def createItems (options : Options) (index : Index) : Artifact → List Sql.ScriptItem
  | database project =>
      (databaseLines options project (Naming.databaseName project.toElement).name).map (·.item)
  | routines kind dataModel =>
      ((namedRoutines (dataModel.tags.pointingAt (routineMarker options kind))).flatMap
        fun routine => createRoutineLines kind routine.name routine.tag).map (·.item)
  | tables schema file =>
      let edits := file.edits options index schema
      edits.filterMap Table.Edit.createItem? ++
        (edits.filterMap Table.Edit.key?).map fun key => ⟨0, .statement key.statement⟩
  | schemas project =>
      ((newSchemas [] project.dataModels).flatMap fun (dataModel, schema) =>
        schemaLines options dataModel schema).map (·.item)

/-- The script that drops the artifact. -/
def dropItems (options : Options) (index : Index) : Artifact → List Sql.ScriptItem
  | database project =>
      [⟨0, .statement (.dropDatabase (Naming.databaseName project.toElement).name)⟩]
  | routines kind dataModel =>
      (namedRoutines (dataModel.tags.pointingAt (routineMarker options kind))).map
        fun routine => ⟨0, .statement (.dropRoutine kind routine.name)⟩
  | tables schema file =>
      (file.edits options index schema).filterMap Table.Edit.dropItem?
  | schemas project =>
      (newSchemas [] project.dataModels).map fun (_, schema) =>
        ⟨0, .statement (.dropSchema schema)⟩

/-- The whole scripts, with the given indentation. -/
def scripts (indentUnit : String) (options : Options) (index : Index) (artifact : Artifact) :
    ScriptPair where
  create := { indentUnit := indentUnit, items := artifact.createItems options index }
  drop := { indentUnit := indentUnit, items := artifact.dropItems options index }

/-- The scripts that are written, with the paths of their files. -/
def files (options : Options) (index : Index) (artifact : Artifact) :
    List (String × Sql.Script) :=
  match options.indentUnit with
  | .error _ => []
  | .ok unit =>
      if artifact.isWritten options then
        (artifact.scripts unit options index).files options artifact.stem
      else []

end Artifact

/-- The artifacts of a data model; without a schema that has a name, there are no tables. -/
def dataModelArtifacts (dataModel : DataModel) : List Artifact :=
  [.routines .function dataModel, .routines .procedure dataModel] ++
    match Naming.schemaName dataModel.toElement with
    | .error _ => []
    | .ok schema => (tableFiles dataModel).map (.tables schema)

/-- The artifacts of a project. -/
def artifacts (project : Project) : List Artifact :=
  .database project :: project.dataModels.flatMap dataModelArtifacts ++ [.schemas project]

/-- The files of a project, with the whole scripts in them. -/
def projectFiles (options : Options) (project : Project) : List (String × Sql.Script) :=
  (artifacts project).flatMap (Artifact.files options (.ofProject project))

namespace TableFile

theorem mem_tableFiles_ofDiagram {dataModel : DataModel} {diagram : Diagram}
    (h : .diagram diagram ∈ dataModel.members) :
    ofDiagram dataModel diagram ∈ tableFiles dataModel :=
  List.mem_append_left _ (List.mem_filterMap.2 ⟨_, h, rfl⟩)

theorem mem_tableFiles_loose (dataModel : DataModel) : loose dataModel ∈ tableFiles dataModel :=
  List.mem_append_right _ (List.mem_singleton.2 rfl)

theorem mem_tableFiles {dataModel : DataModel} {file : TableFile}
    (h : file ∈ tableFiles dataModel) :
    (∃ diagram, .diagram diagram ∈ dataModel.members ∧ file = ofDiagram dataModel diagram) ∨
      file = loose dataModel := by
  rcases List.mem_append.1 h with h | h
  · obtain ⟨member, hmember, hfile⟩ := List.mem_filterMap.1 h
    cases member with
    | diagram diagram => exact Or.inl ⟨diagram, hmember, (Option.some.inj hfile).symm⟩
    | entity entity => exact absurd hfile (Option.some_ne_none file).symm
  · exact Or.inr (List.mem_singleton.1 h)

/-- The foreign keys of a group are put off when they are to be written. -/
theorem keys_edits {options : Options} (hon : options.foreignKeys = true) (index : Index)
    (schema : String) (file : TableFile) :
    (file.edits options index schema).filterMap Table.Edit.key? =
      (file.foreignKeys index schema).map .foreignKey := by
  unfold edits foreignKeys
  induction file.entities with
  | nil => rfl
  | cons entity entities ih =>
      rw [List.flatMap_cons, List.filterMap_append, ih,
        Table.keys_entityEdits _ _ _ _ _ hon, List.flatMap_cons, List.map_append]

theorem keys_edits_of_off {options : Options} (hoff : options.foreignKeys = false)
    (index : Index) (schema : String) (file : TableFile) :
    (file.edits options index schema).filterMap Table.Edit.key? = [] := by
  unfold edits
  induction file.entities with
  | nil => rfl
  | cons entity entities ih =>
      rw [List.flatMap_cons, List.filterMap_append, ih,
        Table.keys_entityEdits_of_off _ _ _ _ _ hoff, List.nil_append]

/-- The table of an entity stands as one block in the script of its group. -/
theorem tableItems_infix (options : Options) (index : Index) (schema : String)
    {file : TableFile} {entity : Entity} (hentity : entity ∈ file.entities) {tableName : String}
    (hname : Naming.prefixedTableName file.tablePrefix entity.toElement = .ok tableName) :
    Table.tableItems (schema ++ "." ++ tableName)
        (Table.tableColumns (schema ++ "." ++ tableName) entity) <:+:
      (Artifact.tables schema file).createItems options index := by
  have hblock := Table.tableItems_infix_createItems options index schema file.tablePrefix entity
    hname
  obtain ⟨before, after, hentities⟩ := List.append_of_mem hentity
  simp only [Artifact.createItems, edits, hentities, List.flatMap_append, List.flatMap_cons,
    List.filterMap_append, List.append_assoc]
  exact List.infix_append_of_infix_right (List.infix_append_of_infix_left hblock)

theorem createItems_eq_nil (options : Options) (index : Index) (schema : String)
    {file : TableFile} (h : file.isGenerated = false) :
    (Artifact.tables schema file).createItems options index = [] := by
  have hnone := List.any_eq_false.1 h
  have hedits : ∀ {β : Type} (f : Table.Edit → Option β),
      (∀ d, f (Table.reportEdit d) = none) →
        (file.edits options index schema).filterMap f = [] := by
    intro β f hf
    rw [edits, List.filterMap_flatMap]
    refine List.flatMap_eq_nil_iff.2 fun entity hentity => ?_
    obtain ⟨d, hd⟩ := Table.exists_entityEdits_eq_of_not_isGenerated options index schema
      file.tablePrefix entity (by simpa using hnone entity hentity)
    rw [hd, List.filterMap_cons, hf]
    rfl
  have hcreate := hedits Table.Edit.createItem? fun _ => rfl
  have hkeys := hedits Table.Edit.key? fun _ => rfl
  simp only [Artifact.createItems, hcreate, hkeys]
  rfl

end TableFile

section NewSchemas

/-- The schemas that are created are those of the data models, apart from the public one and
from those that are there already. -/
theorem mem_newSchemas_iff {seen : List String} {models : List DataModel} {schema : String} :
    schema ∈ (newSchemas seen models).map (·.2) ↔
      schema ∉ seen ∧ schema ≠ Naming.publicSchema ∧
        ∃ dataModel ∈ models, Naming.schemaName dataModel.toElement = .ok schema := by
  induction models generalizing seen with
  | nil => simp [newSchemas]
  | cons dataModel rest ih =>
      rw [newSchemas]
      cases hname : Naming.schemaName dataModel.toElement with
      | error fault => simp [ih, hname]
      | ok name =>
          simp only
          split
          · rename_i hold
            rw [Bool.or_eq_true, decide_eq_true_eq, List.contains_iff_mem] at hold
            rw [ih]
            constructor
            · rintro ⟨hseen, hpublic, model, hmodel, hschema⟩
              exact ⟨hseen, hpublic, model, List.mem_cons_of_mem _ hmodel, hschema⟩
            · rintro ⟨hseen, hpublic, model, hmodel, hschema⟩
              refine ⟨hseen, hpublic, ?_⟩
              rcases List.mem_cons.1 hmodel with rfl | hmodel
              · obtain rfl : name = schema := Except.ok.inj (hname.symm.trans hschema)
                exact (hold.elim hpublic hseen).elim
              · exact ⟨model, hmodel, hschema⟩
          · rename_i hnew
            rw [Bool.or_eq_true, decide_eq_true_eq, List.contains_iff_mem, not_or] at hnew
            rw [List.map_cons, List.mem_cons, ih, List.mem_append, List.mem_singleton]
            constructor
            · rintro (rfl | ⟨hseen, hpublic, model, hmodel, hschema⟩)
              · exact ⟨hnew.2, hnew.1, dataModel, List.mem_cons_self .., hname⟩
              · exact ⟨fun h => hseen (Or.inl h), hpublic, model, List.mem_cons_of_mem _ hmodel,
                  hschema⟩
            · rintro ⟨hseen, hpublic, model, hmodel, hschema⟩
              by_cases heq : schema = name
              · exact Or.inl heq
              · refine Or.inr ⟨fun h => h.elim hseen heq, hpublic, ?_⟩
                rcases List.mem_cons.1 hmodel with rfl | hmodel
                · exact absurd (Except.ok.inj (hschema.symm.trans hname)) heq
                · exact ⟨model, hmodel, hschema⟩

/-- Each schema is created once. -/
theorem nodup_newSchemas (seen : List String) (models : List DataModel) :
    ((newSchemas seen models).map (·.2)).Nodup := by
  induction models generalizing seen with
  | nil => exact List.nodup_nil
  | cons dataModel rest ih =>
      rw [newSchemas]
      cases Naming.schemaName dataModel.toElement with
      | error fault => exact ih seen
      | ok name =>
          simp only
          split
          · exact ih seen
          · rw [List.map_cons, List.nodup_cons]
            refine ⟨fun hmem => ?_, ih _⟩
            exact (mem_newSchemas_iff.1 hmem).1 (List.mem_append_right _ (List.mem_singleton.2 rfl))

end NewSchemas

namespace Artifact

variable {options : Options} {index : Index}

theorem files_of_indentUnit {unit : String} (h : options.indentUnit = .ok unit)
    (artifact : Artifact) :
    artifact.files options index =
      if artifact.isWritten options then
        (artifact.scripts unit options index).files options artifact.stem
      else [] := by
  rw [files, h]

theorem tables_mem_dataModelArtifacts {dataModel : DataModel} {schema : String}
    {file : TableFile} (hschema : Naming.schemaName dataModel.toElement = .ok schema)
    (hfile : file ∈ tableFiles dataModel) :
    .tables schema file ∈ dataModelArtifacts dataModel := by
  refine List.mem_append_right _ ?_
  rw [hschema]
  exact List.mem_map_of_mem hfile

theorem mem_artifacts_of_mem_dataModelArtifacts {project : Project} {dataModel : DataModel}
    {artifact : Artifact} (hmodel : dataModel ∈ project.dataModels)
    (h : artifact ∈ dataModelArtifacts dataModel) : artifact ∈ artifacts project :=
  List.mem_append_left _
    (List.mem_cons_of_mem _ (List.mem_flatMap.2 ⟨dataModel, hmodel, h⟩))

theorem exists_dataModel_of_tables_mem {project : Project} {schema : String} {file : TableFile}
    (h : .tables schema file ∈ artifacts project) :
    ∃ dataModel ∈ project.dataModels,
      Naming.schemaName dataModel.toElement = .ok schema ∧ file ∈ tableFiles dataModel := by
  rcases List.mem_append.1 h with h | h
  · rcases List.mem_cons.1 h with h | h
    · cases h
    · obtain ⟨dataModel, hmodel, h⟩ := List.mem_flatMap.1 h
      rcases List.mem_append.1 h with h | h
      · rcases List.mem_cons.1 h with h | h
        · cases h
        · cases List.mem_singleton.1 h
      · cases hschema : Naming.schemaName dataModel.toElement with
        | error fault =>
            rw [hschema] at h
            cases h
        | ok found =>
            rw [hschema] at h
            obtain ⟨table, htable, heq⟩ := List.mem_map.1 h
            cases heq
            exact ⟨dataModel, hmodel, hschema, htable⟩
  · cases List.mem_singleton.1 h

end Artifact
end Generation
end ErdSql
