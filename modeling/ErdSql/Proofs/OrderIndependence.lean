import ErdSql.Proofs.Inventory
import ErdSql.Proofs.Rearrangements
import ErdSql.Proofs.ReliableRuns

/-!
# Order of data models and members

The files of a rearranged project are the same up to their order, apart from the scripts of the
schemas: these are created once each in the order in which the data models bring them, and the
first data model of a schema describes it.  So a rearrangement can only fail by putting first a
data model whose documentation has no literal.
-/

namespace ErdSql

def Sql.Creation.schema? : Creation → Option String
  | .schema name => some name
  | _ => none

namespace Generation

/-- The schemas that a list of events creates. -/
def createdSchemas (events : List Event) : List String :=
  (createdIn (Event.scripts events)).filterMap Sql.Creation.schema?

/-- The files that a list of events writes, with their texts, apart from those of the schemas. -/
def filesBesideSchemas (options : Options) (events : List Event) : List (String × String) :=
  (Event.files events).filter fun file => !(stemPaths options schemaStem).contains file.1

section Index

variable {options : Options} {index index' : Index}

theorem filterMap_entityEdits_index {β : Type} {f : Table.Edit → Option β}
    (hf : ∀ edit : Table.Edit, edit.isOfReference = true → f edit = none)
    (schema tablePrefix : String) (entity : Entity) :
    (Table.entityEdits options index schema tablePrefix entity).filterMap f =
      (Table.entityEdits options index' schema tablePrefix entity).filterMap f := by
  cases hname : Naming.prefixedTableName tablePrefix entity.toElement with
  | error fault =>
      rw [Table.entityEdits_of_error _ _ _ _ _ hname, Table.entityEdits_of_error _ _ _ _ _ hname]
  | ok tableName =>
      rw [Table.entityEdits_of_ok _ _ _ _ _ hname, Table.entityEdits_of_ok _ _ _ _ _ hname]
      simp only [List.filterMap_append, Table.filterMap_referenceEdits hf]

theorem filterMap_edits_index {β : Type} {f : Table.Edit → Option β}
    (hf : ∀ edit : Table.Edit, edit.isOfReference = true → f edit = none) (schema : String)
    (file : TableFile) :
    (file.edits options index schema).filterMap f =
      (file.edits options index' schema).filterMap f := by
  simp only [TableFile.edits, List.filterMap_flatMap]
  exact List.flatMap_congr fun entity _ => filterMap_entityEdits_index hf _ _ entity

variable (hkeys : ∀ table tableName column,
  Table.foreignKey? index table tableName column = Table.foreignKey? index' table tableName column)

include hkeys

theorem entityForeignKeys_index :
    Table.entityForeignKeys index = Table.entityForeignKeys index' := by
  have hsame : Table.foreignKey? index = Table.foreignKey? index' := by
    funext table tableName column
    exact hkeys table tableName column
  funext schema tablePrefix entity
  simp only [Table.entityForeignKeys, hsame]

/-- Scripts depend on the index through the foreign keys that columns call for. -/
theorem createItems_index (artifact : Artifact) :
    artifact.createItems options index = artifact.createItems options index' := by
  cases artifact with
  | database project => rfl
  | routines kind dataModel => rfl
  | schemas project => rfl
  | tables schema file =>
      have hlines : (file.edits options index schema).filterMap Table.Edit.createItem? =
          (file.edits options index' schema).filterMap Table.Edit.createItem? :=
        filterMap_edits_index (fun _ hedit => (Table.Edit.items_of_isOfReference hedit).1) schema
          file
      have hdeferred : (file.edits options index schema).filterMap Table.Edit.key? =
          (file.edits options index' schema).filterMap Table.Edit.key? := by
        cases hon : options.foreignKeys with
        | false => rw [TableFile.keys_edits_of_off hon, TableFile.keys_edits_of_off hon]
        | true =>
            rw [TableFile.keys_edits hon, TableFile.keys_edits hon]
            simp only [TableFile.foreignKeys, entityForeignKeys_index hkeys]
      simp only [Artifact.createItems, hlines, hdeferred]

omit hkeys in
theorem dropItems_index (artifact : Artifact) :
    artifact.dropItems options index = artifact.dropItems options index' := by
  cases artifact with
  | database project => rfl
  | routines kind dataModel => rfl
  | schemas project => rfl
  | tables schema file =>
      exact filterMap_edits_index (fun _ hedit => (Table.Edit.items_of_isOfReference hedit).2.1)
        schema file

theorem files_index (artifact : Artifact) :
    artifact.files options index = artifact.files options index' := by
  have hdrop : artifact.dropItems options index = artifact.dropItems options index' :=
    dropItems_index artifact
  simp only [Artifact.files, Artifact.scripts, createItems_index hkeys, hdrop]

theorem isClear_index (artifact : Artifact) :
    artifact.isClear options index = artifact.isClear options index' := by
  simp only [Artifact.isClear, createItems_index hkeys]

end Index

section Routines

variable {model other : DataModel} (h : model.Rearranged other) (options : Options) (index : Index)
  (kind : Sql.RoutineKind)

include h

theorem files_routines_rearranged :
    (Artifact.routines kind model).files options index =
      (Artifact.routines kind other).files options index := by
  obtain ⟨element, members⟩ := model
  obtain ⟨element', members'⟩ := other
  obtain rfl : element = element' := h.element
  rfl

end Routines

section Projects

variable {project other : Project} (h : project.Rearranged other) (hids : project.HasDistinctIds)
  (options : Options)

include h

theorem files_database_rearranged (index index' : Index) :
    (Artifact.database project).files options index =
      (Artifact.database other).files options index' := by
  obtain ⟨element, author, models⟩ := project
  obtain ⟨element', author', models'⟩ := other
  obtain rfl : element = element' := h.element
  obtain rfl : author = author' := h.author
  rfl

theorem isClear_database_rearranged (index index' : Index) :
    (Artifact.database project).isClear options index =
      (Artifact.database other).isClear options index' := by
  simp only [isClear_database, databaseLines, h.element, h.author]

theorem exists_schemaName_rearranged {schema : String}
    (hschema : ∃ model ∈ project.dataModels, Naming.schemaName model.toElement = .ok schema) :
    ∃ model ∈ other.dataModels, Naming.schemaName model.toElement = .ok schema := by
  obtain ⟨model, hmodel, hname⟩ := hschema
  obtain ⟨model', hmodel', hrel⟩ := h.exists_of_mem hmodel
  exact ⟨model', hmodel', hrel.element ▸ hname⟩

/-- The schemas that are created are the same up to order. -/
theorem newSchemas_perm :
    ((newSchemas [] project.dataModels).map (·.2)).Perm
      ((newSchemas [] other.dataModels).map (·.2)) := by
  rw [List.perm_ext_iff_of_nodup (nodup_newSchemas _ _) (nodup_newSchemas _ _)]
  intro schema
  rw [mem_newSchemas_iff, mem_newSchemas_iff]
  exact and_congr_right fun _ => and_congr_right fun _ =>
    ⟨exists_schemaName_rearranged h, exists_schemaName_rearranged h.symm⟩

include hids

/-- The files of the data models are the same up to order. -/
theorem files_dataModels_perm :
    ((project.dataModels.flatMap dataModelArtifacts).flatMap
        (Artifact.files options (.ofProject project))).Perm
      ((other.dataModels.flatMap dataModelArtifacts).flatMap
        (Artifact.files options (.ofProject other))) := by
  have hindex : Artifact.files options (.ofProject other) =
      Artifact.files options (.ofProject project) :=
    funext (files_index (h.foreignKey?_eq hids))
  rw [hindex, List.flatMap_assoc, List.flatMap_assoc]
  exact h.perm_flatMap fun model model' hmodel =>
    hmodel.perm_artifacts fun kind => files_routines_rearranged hmodel options _ kind

theorem all_isClear_dataModels :
    (project.dataModels.flatMap dataModelArtifacts).all
        (Artifact.isClear options (.ofProject project)) =
      (other.dataModels.flatMap dataModelArtifacts).all
        (Artifact.isClear options (.ofProject other)) := by
  have hindex : Artifact.isClear options (.ofProject other) =
      Artifact.isClear options (.ofProject project) :=
    funext (isClear_index (h.foreignKey?_eq hids))
  have hclear : ∀ models : List DataModel,
      (models.flatMap dataModelArtifacts).all (Artifact.isClear options (.ofProject project)) =
        (models.flatMap fun model => (dataModelArtifacts model).flatMap
          fun artifact => [artifact.isClear options (.ofProject project)]).all id := by
    intro models
    simp only [List.all_flatMap, List.all_cons, List.all_nil, Bool.and_true, id]
  rw [hindex, hclear, hclear]
  refine List.Perm.all_eq (h.perm_flatMap fun model model' hmodel => hmodel.perm_artifacts ?_)
  intro kind
  rw [isClear_routines, isClear_routines]

end Projects

section Schemas

variable (options : Options) (index : Index)

theorem all_isWritable_schemaLines (dataModel : DataModel) (schema : String) :
    (schemaLines options dataModel schema).all (·.line.isWritable) =
      Sql.hasLiteral dataModel.documentation := by
  unfold schemaLines
  by_cases hempty : dataModel.documentation = ""
  · rw [if_pos hempty, hempty]
    rfl
  · rw [if_neg hempty]
    simp [PlacedLine.ofText, PlacedLine.ofStatement, PlacedLine.blank, Sql.Line.isWritable,
      Sql.Statement.isWritable, Sql.Statement.literals]

/-- The schemas can be written if the first data model of each has a documentation with a
literal. -/
theorem isClear_schemas_iff (project : Project) :
    (Artifact.schemas project).isClear options index = true ↔
      ∀ new ∈ newSchemas [] project.dataModels, Sql.hasLiteral new.1.documentation = true := by
  rw [isClear_schemas]
  simp only [all_isWritable_schemaLines, List.all_eq_true]

theorem schemas_createdIn_database {unit : String} (hunit : options.indentUnit = .ok unit)
    (project : Project) :
    (createdIn ((Artifact.database project).files options index)).filterMap
      Sql.Creation.schema? = [] := by
  rw [createdIn_files index hunit rfl, Artifact.createItems, created_databaseLines]
  split <;> rfl

theorem schemas_createdIn_dataModelArtifacts {unit : String}
    (hunit : options.indentUnit = .ok unit) {model : DataModel} {artifact : Artifact}
    (hartifact : artifact ∈ dataModelArtifacts model) :
    (createdIn (artifact.files options index)).filterMap Sql.Creation.schema? = [] := by
  have hroutines : ∀ kind,
      (createdIn ((Artifact.routines kind model).files options index)).filterMap
        Sql.Creation.schema? = [] := by
    intro kind
    rw [createdIn_routines index hunit, List.filterMap_map]
    exact List.filterMap_eq_nil_iff.2 fun _ _ => rfl
  rcases List.mem_append.1 hartifact with hartifact | hartifact
  · rcases List.mem_cons.1 hartifact with rfl | hartifact
    · exact hroutines .function
    · rw [List.mem_singleton.1 hartifact]
      exact hroutines .procedure
  · split at hartifact
    · cases hartifact
    · obtain ⟨file, -, rfl⟩ := List.mem_map.1 hartifact
      rw [createdIn_tables index hunit]
      refine List.filterMap_eq_nil_iff.2 fun creation hcreation => ?_
      obtain ⟨named, -, hmem⟩ := List.mem_flatMap.1 hcreation
      rcases List.mem_append.1 hmem with hmem | hmem
      · obtain ⟨type, -, rfl⟩ := List.mem_map.1 hmem
        rfl
      · rw [List.mem_singleton.1 hmem]
        rfl

theorem createdIn_schemas {unit : String} (hunit : options.indentUnit = .ok unit)
    (project : Project) :
    createdIn ((Artifact.schemas project).files options index) =
      (newSchemas [] project.dataModels).map fun (_, schema) => .schema schema := by
  have hdrop : ((Artifact.schemas project).dropItems options index).filterMap
      (·.line.created?) = [] := by
    rw [Artifact.dropItems, List.filterMap_map]
    exact List.filterMap_eq_nil_iff.2 fun _ _ => rfl
  rw [createdIn_files index hunit hdrop, Artifact.createItems, created_schemaLines]
  split
  · rfl
  · rename_i hnone
    have hempty : newSchemas [] project.dataModels = [] := by
      simpa [Artifact.isWritten] using hnone
    rw [hempty]
    rfl

/-- The files of a project create the schemas of its data models, each with the first of them. -/
theorem createdSchemas_projectFiles {unit : String} (hunit : options.indentUnit = .ok unit)
    (project : Project) :
    (createdIn (projectFiles options project)).filterMap Sql.Creation.schema? =
      (newSchemas [] project.dataModels).map (·.2) := by
  have hmodels : ∀ artifact ∈ project.dataModels.flatMap dataModelArtifacts,
      (createdIn (artifact.files options (.ofProject project))).filterMap
        Sql.Creation.schema? = [] := by
    intro artifact hartifact
    obtain ⟨model, -, hmem⟩ := List.mem_flatMap.1 hartifact
    exact schemas_createdIn_dataModelArtifacts options _ hunit hmem
  rw [projectFiles, createdIn_flatMap, List.filterMap_flatMap, artifacts, List.flatMap_append,
    List.flatMap_cons, List.flatMap_singleton, schemas_createdIn_database options _ hunit,
    List.flatMap_eq_nil_iff.2 hmodels, createdIn_schemas options _ hunit, List.filterMap_map]
  exact congrFun List.filterMap_eq_map' _

end Schemas

section Paths

variable {options : Options} {unit : String} (hunit : options.indentUnit = .ok unit)
  (index : Index)

include hunit

theorem mem_stemPaths_of_mem_files {artifact : Artifact} {file : String × Sql.Script}
    (hfile : file ∈ artifact.files options index) : file.1 ∈ stemPaths options artifact.stem := by
  have hpath : file.1 ∈ (artifact.files options index).map (·.1) := List.mem_map_of_mem hfile
  rw [map_fst_files hunit, pathsIf] at hpath
  split at hpath
  · exact hpath
  · cases hpath

/-- No other artifact has a file with a path of the schemas. -/
theorem not_mem_stemPaths_schemas {artifact : Artifact} (hstem : artifact.stem ≠ schemaStem)
    {file : String × Sql.Script} (hfile : file ∈ artifact.files options index) :
    file.1 ∉ stemPaths options schemaStem :=
  fun hpath => hstem (eq_of_mem_stemPaths (mem_stemPaths_of_mem_files hunit index hfile) hpath)

omit hunit in
theorem stem_ne_schemaStem {model : DataModel} {artifact : Artifact}
    (hartifact : artifact ∈ dataModelArtifacts model) : artifact.stem ≠ schemaStem := by
  obtain ⟨part, hpart⟩ := exists_stem_eq hartifact
  intro hstem
  have hunderscore := underscore_mem_append (Naming.normalize model.name) part
  rw [← hpart, hstem] at hunderscore
  exact absurd hunderscore (by decide)

theorem filter_projectFiles (project : Project) :
    (projectFiles options project).filter
        (fun file => !(stemPaths options schemaStem).contains file.1) =
      (Artifact.database project).files options (.ofProject project) ++
        (project.dataModels.flatMap dataModelArtifacts).flatMap
          (Artifact.files options (.ofProject project)) := by
  have hkept : ∀ artifact : Artifact, artifact.stem ≠ schemaStem →
      ∀ file ∈ artifact.files options (.ofProject project),
        (!(stemPaths options schemaStem).contains file.1) = true := by
    intro artifact hstem file hfile
    simpa using not_mem_stemPaths_schemas hunit _ hstem hfile
  have hdropped : ((Artifact.schemas project).files options (.ofProject project)).filter
      (fun file => !(stemPaths options schemaStem).contains file.1) = [] := by
    refine List.filter_eq_nil_iff.2 fun file hfile => ?_
    have hpath : file.1 ∈ stemPaths options schemaStem :=
      mem_stemPaths_of_mem_files hunit _ hfile
    simpa using hpath
  rw [projectFiles, artifacts, List.flatMap_append, List.flatMap_cons, List.flatMap_singleton,
    List.filter_append, hdropped, List.append_nil]
  refine List.filter_eq_self.2 fun file hfile => ?_
  rcases List.mem_append.1 hfile with hfile | hfile
  · exact hkept (.database project) (by change databaseStem ≠ schemaStem; decide) file hfile
  · obtain ⟨artifact, hartifact, hfile⟩ := List.mem_flatMap.1 hfile
    obtain ⟨model, -, hmem⟩ := List.mem_flatMap.1 hartifact
    exact hkept artifact (stem_ne_schemaStem hmem) file hfile

end Paths

/-- The runs write the same files up to order, apart from the scripts of the schemas, and create
the same schemas, each once. -/
structure Run.SameUpToOrder {σ : Type} (options : Options) (run other : Run σ) : Prop where
  files : (filesBesideSchemas options run.events).Perm (filesBesideSchemas options other.events)
  schemas : (createdSchemas run.events).Perm (createdSchemas other.events)
  once : (createdSchemas other.events).Nodup

namespace Generator

open Storage

variable {σ : Type} [Sink σ]

theorem filesBesideSchemas_of_success {generator : Generator σ} {moment : Log.Moment}
    {project : Project}
    (h : (generator.generateProject moment project).result.success = true) :
    filesBesideSchemas generator.options (generator.generateProject moment project).events =
      ((Artifact.database project).files generator.options (.ofProject project) ++
        (project.dataModels.flatMap dataModelArtifacts).flatMap
          (Artifact.files generator.options (.ofProject project))).map
            fun (path, script) => (path, script.text) := by
  obtain ⟨unit, hunit⟩ := exists_indentUnit_of_success generator moment project h
  rw [filesBesideSchemas, Event.files_eq_map_scripts, scripts_of_success generator moment project h,
    List.filter_map, ← filter_projectFiles hunit]
  rfl

theorem createdSchemas_of_success {generator : Generator σ} {moment : Log.Moment}
    {project : Project}
    (h : (generator.generateProject moment project).result.success = true) :
    createdSchemas (generator.generateProject moment project).events =
      (newSchemas [] project.dataModels).map (·.2) := by
  obtain ⟨unit, hunit⟩ := exists_indentUnit_of_success generator moment project h
  rw [createdSchemas, scripts_of_success generator moment project h,
    createdSchemas_projectFiles _ hunit]

/-- A rearranged project can be generated if the first data model of each schema has a
documentation with a literal, and then the same comes of it up to order. -/
theorem generate_rearranged (generator : Generator σ) (hsink : NeverFails generator.sink)
    (moment moment' : Log.Moment) (project other : Project) (hids : project.HasDistinctIds)
    (hrearranged : project.Rearranged other)
    (hsuccess :
      (generator.generate moment (some (.project project))).result.success = true) :
    ((generator.generate moment' (some (.project other))).result.success = true ↔
        ∀ new ∈ newSchemas [] other.dataModels, Sql.hasLiteral new.1.documentation = true) ∧
      ((generator.generate moment' (some (.project other))).result.success = true →
        (generator.generate moment (some (.project project))).SameUpToOrder generator.options
          (generator.generate moment' (some (.project other)))) ∧
      ∀ table tableName column,
        Table.foreignKey? (.ofProject other) table tableName column =
          Table.foreignKey? (.ofProject project) table tableName column := by
  obtain ⟨unit, hunit⟩ := exists_indentUnit_of_success generator moment project hsuccess
  have hclear := (success_iff_isClear generator moment project hsink hunit).1 hsuccess
  rw [artifacts, List.cons_append, List.all_cons, List.all_append, Bool.and_eq_true,
    Bool.and_eq_true] at hclear
  refine ⟨?_, ?_, hrearranged.foreignKey?_eq hids⟩
  · have hother := success_iff_isClear generator moment' other hsink hunit
    rw [artifacts, List.cons_append, List.all_cons, List.all_append,
      ← isClear_database_rearranged hrearranged generator.options (.ofProject project),
      ← all_isClear_dataModels hrearranged hids, hclear.1, hclear.2.1, Bool.true_and,
      Bool.true_and, List.all_cons, List.all_nil, Bool.and_true, isClear_schemas_iff] at hother
    exact hother
  · intro hother
    change (generator.generateProject moment project).SameUpToOrder generator.options
      (generator.generateProject moment' other)
    constructor
    · rw [filesBesideSchemas_of_success hsuccess, filesBesideSchemas_of_success hother,
        files_database_rearranged hrearranged _ (.ofProject project) (.ofProject other)]
      exact ((files_dataModels_perm hrearranged hids _).append_left _).map _
    · rw [createdSchemas_of_success hsuccess, createdSchemas_of_success hother]
      exact newSchemas_perm hrearranged
    · rw [createdSchemas_of_success hother]
      exact nodup_newSchemas _ _

/-- Two data models in one schema; the documentation of the second has no literal. -/
def sharedSchemaModels : List DataModel :=
  [{ id := .named "a", name := "Sales", tags := [.ofString "schema" "sales"] },
    { id := .named "b", name := "Stock", documentation := "a\x00b",
      tags := [.ofString "schema" "sales"] }]

/-- The project can be generated, for the first data model describes the schema; with the data
models the other way round it cannot. -/
theorem not_success_of_rearranged :
    ∃ project other : Project, project.HasDistinctIds ∧ project.Rearranged other ∧
      NeverFails memoryGenerator.sink ∧
      (memoryGenerator.generate newYear (some (.project project))).result.success = true ∧
      (memoryGenerator.generate newYear (some (.project other))).result.success = false := by
  refine ⟨{ id := .named "p", name := "Shop", dataModels := sharedSchemaModels },
    { id := .named "p", name := "Shop", dataModels := sharedSchemaModels.reverse }, ?_, ?_,
    neverFails_memory _, by decide +kernel, by decide +kernel⟩
  · unfold Project.HasDistinctIds
    decide
  · refine ⟨rfl, rfl, sharedSchemaModels.reverse, (List.reverse_perm _).symm, ?_⟩
    exact List.forall₂_same.2 fun model _ => ⟨rfl, List.Perm.refl _, rfl⟩

/-- A data model with the given members. -/
def marketModel (members : List Member) : DataModel :=
  { id := .named "market", name := "Market", members := members }

/-- A table that refers to the customers of another data model. -/
def orderMember : Member :=
  .entity {
    id := .named "order"
    name := "Order"
    columns := [{ id := .named "buyer", name := "buyer", type := "INTEGER",
                  referenceTo := some "number" }] }

/-- A diagram whose table refers to a loose entity. -/
def deliveryMember : Member :=
  .diagram {
    id := .named "deliveries"
    name := "Deliveries"
    entities := [{
      id := .named "delivery"
      name := "Delivery"
      columns := [{ id := .named "cause", name := "cause", type := "INTEGER",
                    referenceTo := some "buyer" }] }] }

def marketProject (models : List DataModel) : Project :=
  { id := .named "fair", name := "Fair", dataModels := models }

/-- The same comes of a project with the data model referred to before the one that refers to it,
and with the diagram before the entity that it refers to. -/
theorem generate_rearranged_market :
    (memoryGenerator.generate newYear (some (.project (marketProject
        [marketModel [orderMember, deliveryMember], customerModel])))).SameUpToOrder {}
      (memoryGenerator.generate newYear (some (.project (marketProject
        [customerModel, marketModel [deliveryMember, orderMember]])))) := by
  have hids : (marketProject
      [marketModel [orderMember, deliveryMember], customerModel]).HasDistinctIds := by
    unfold Project.HasDistinctIds
    decide
  have hrearranged :
      (marketProject [marketModel [orderMember, deliveryMember], customerModel]).Rearranged
        (marketProject [customerModel, marketModel [deliveryMember, orderMember]]) := by
    refine ⟨rfl, rfl, [customerModel, marketModel [orderMember, deliveryMember]],
      List.Perm.swap _ _ _, ?_⟩
    exact .cons ⟨rfl, List.Perm.refl _, rfl⟩ (.cons ⟨rfl, List.Perm.swap _ _ _, rfl⟩ .nil)
  have hsuccess : (memoryGenerator.generate newYear (some (.project (marketProject
      [marketModel [orderMember, deliveryMember], customerModel])))).result.success = true := by
    decide +kernel
  obtain ⟨hiff, hsame, -⟩ := generate_rearranged memoryGenerator (neverFails_memory _) newYear
    newYear _ _ hids hrearranged hsuccess
  exact hsame (hiff.2 (by decide +kernel))

end Generator

end Generation
end ErdSql
