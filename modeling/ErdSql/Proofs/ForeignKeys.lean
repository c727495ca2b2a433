import ErdSql.Proofs.Placements
import ErdSql.Proofs.Runs

/-!
# Foreign keys and the tables they name

A foreign key is resolved by walking up from the column it refers to, and a table is named by
walking down from the project.  Where all elements have different identities the two agree:
each foreign key that is written names a table of its own script and a table that the same run
creates for the entity referred to, with the columns that they have there.
-/

namespace ErdSql
namespace Generation

section Items

/-- Whether no line among the items adds a foreign key. -/
def noForeignKeys (items : List Sql.ScriptItem) : Bool :=
  items.all fun item => !item.line.isForeignKey

theorem noForeignKeys_append (items items' : List Sql.ScriptItem) :
    noForeignKeys (items ++ items') = (noForeignKeys items && noForeignKeys items') :=
  List.all_append

theorem noForeignKeys_databaseLines (options : Options) (project : Project) (name : String) :
    noForeignKeys ((databaseLines options project name).map (·.item)) = true := by
  have hstatements : ∀ collation : Option String,
      noForeignKeys ((staircase (Sql.createDatabase name options.owner options.encoding
        options.tablespace collation)).map (·.item)) = true := by
    intro collation
    unfold Sql.createDatabase
    cases collation with
    | none => rfl
    | some collation =>
        simp only
        split <;> rfl
  unfold databaseLines
  rw [List.map_append, List.map_append, noForeignKeys_append, noForeignKeys_append, hstatements]
  split <;> rfl

theorem noForeignKeys_createRoutines (kind : Sql.RoutineKind) (named : List NamedRoutine) :
    noForeignKeys ((named.flatMap fun routine =>
      createRoutineLines kind routine.name routine.tag).map (·.item)) = true := by
  induction named with
  | nil => rfl
  | cons routine named ih =>
      rw [List.flatMap_cons, List.map_append, noForeignKeys_append, ih]
      rfl

theorem noForeignKeys_schemaLines (options : Options) (new : List (DataModel × String)) :
    noForeignKeys ((new.flatMap fun (dataModel, schema) =>
      schemaLines options dataModel schema).map (·.item)) = true := by
  induction new with
  | nil => rfl
  | cons entry new ih =>
      obtain ⟨dataModel, schema⟩ := entry
      rw [List.flatMap_cons, List.map_append, noForeignKeys_append, ih, Bool.and_true]
      simp only [schemaLines]
      split <;> rfl

theorem noForeignKeys_dropItems (options : Options) (index : Index) (artifact : Artifact) :
    noForeignKeys (artifact.dropItems options index) = true := by
  cases artifact with
  | database project => rfl
  | routines kind dataModel =>
      rw [Artifact.dropItems, noForeignKeys, List.all_map]
      exact List.all_eq_true.2 fun _ _ => rfl
  | tables schema file =>
      refine List.all_eq_true.2 fun item hitem => ?_
      rw [Artifact.dropItems, TableFile.edits, List.filterMap_flatMap] at hitem
      obtain ⟨entity, -, hitem⟩ := List.mem_flatMap.1 hitem
      rw [Table.isForeignKey_of_mem_dropItems options index schema file.tablePrefix entity hitem]
      rfl
  | schemas project =>
      rw [Artifact.dropItems, noForeignKeys, List.all_map]
      exact List.all_eq_true.2 fun _ _ => rfl

theorem noForeignKeys_edits (options : Options) (index : Index) (schema : String)
    (file : TableFile) :
    noForeignKeys ((file.edits options index schema).filterMap Table.Edit.createItem?) =
      true := by
  refine List.all_eq_true.2 fun item hitem => ?_
  rw [TableFile.edits, List.filterMap_flatMap] at hitem
  obtain ⟨entity, -, hitem⟩ := List.mem_flatMap.1 hitem
  rw [Table.isForeignKey_of_mem_createItems options index schema file.tablePrefix entity hitem]
  rfl

theorem exists_tables_of_mem_createItems {options : Options} {index : Index}
    {artifact : Artifact} {item : Sql.ScriptItem}
    (hitem : item ∈ artifact.createItems options index)
    (hforeign : item.line.isForeignKey = true) :
    ∃ schema file, artifact = .tables schema file ∧
      item ∈ ((file.edits options index schema).filterMap Table.Edit.key?).map
        fun key => ⟨0, .statement key.statement⟩ := by
  have hnone : ∀ items, noForeignKeys items = true → item ∉ items := by
    intro items hitems hmem
    have hline := List.all_eq_true.1 hitems item hmem
    rw [hforeign] at hline
    cases hline
  cases artifact with
  | database project => exact absurd hitem (hnone _ (noForeignKeys_databaseLines ..))
  | routines kind dataModel => exact absurd hitem (hnone _ (noForeignKeys_createRoutines ..))
  | schemas project => exact absurd hitem (hnone _ (noForeignKeys_schemaLines ..))
  | tables schema file =>
      refine ⟨schema, file, rfl, ?_⟩
      rcases List.mem_append.1 hitem with hitem | hitem
      · exact absurd hitem (hnone _ (noForeignKeys_edits ..))
      · exact hitem

end Items

namespace Artifact

/-- A file of an artifact is the script that creates it or the one that drops it. -/
theorem eq_of_mem_files {options : Options} {index : Index} {artifact : Artifact}
    {path : String} {script : Sql.Script} (h : (path, script) ∈ artifact.files options index) :
    artifact.isWritten options = true ∧
      (path = createPath artifact.stem ∧ script.items = artifact.createItems options index ∨
        path = dropPath artifact.stem ∧ script.items = artifact.dropItems options index) := by
  unfold files at h
  split at h
  · cases h
  · split at h
    · rename_i hwritten
      refine ⟨hwritten, ?_⟩
      rcases List.mem_cons.1 h with h | h
      · cases h
        exact Or.inl ⟨rfl, rfl⟩
      · split at h
        · cases List.mem_singleton.1 h
          exact Or.inr ⟨rfl, rfl⟩
        · cases h
    · cases h

end Artifact

/-- A foreign key in a file of a project is one that a column of an entity calls for. -/
theorem exists_entity_of_addForeignKey {options : Options} (hon : options.foreignKeys = true)
    {project : Project} {path : String} {script : Sql.Script}
    (hscript : (path, script) ∈ projectFiles options project) {item : Sql.ScriptItem}
    (hitem : item ∈ script.items) {key : Sql.ForeignKey}
    (hkey : item.line = .statement (.addForeignKey key)) :
    ∃ dataModel ∈ project.dataModels, ∃ schema,
      Naming.schemaName dataModel.toElement = .ok schema ∧
        ∃ file ∈ tableFiles dataModel, ∃ entity ∈ file.entities,
          key ∈ Table.entityForeignKeys (.ofProject project) schema file.tablePrefix entity ∧
            script.items =
              (Artifact.tables schema file).createItems options (.ofProject project) := by
  have hforeign : item.line.isForeignKey = true := by
    rw [hkey]
    rfl
  obtain ⟨artifact, hartifact, hfile⟩ := List.mem_flatMap.1 hscript
  obtain ⟨-, ⟨-, hitems⟩ | ⟨-, hitems⟩⟩ := Artifact.eq_of_mem_files hfile
  · rw [hitems] at hitem
    obtain ⟨schema, file, rfl, hmem⟩ := exists_tables_of_mem_createItems hitem hforeign
    obtain ⟨dataModel, hmodel, hschema, htable⟩ :=
      Artifact.exists_dataModel_of_tables_mem hartifact
    rw [TableFile.keys_edits hon, List.map_map] at hmem
    obtain ⟨found, hfound, rfl⟩ := List.mem_map.1 hmem
    obtain rfl : found = key := by
      cases hkey
      rfl
    obtain ⟨entity, hentity, hcalled⟩ := List.mem_flatMap.1 hfound
    exact ⟨dataModel, hmodel, schema, hschema, file, htable, entity, hentity, hcalled, hitems⟩
  · have hnone := List.all_eq_true.1 (noForeignKeys_dropItems options _ artifact) item
      (hitems ▸ hitem)
    rw [hforeign] at hnone
    cases hnone

section Resolution

/-- The script creates the table of an entity with a line for a column under its name. -/
structure CreatesColumn (script : Sql.Script) (table : String) (entity : Entity)
    (column : Column) (name : String) : Prop where
  column_mem : column ∈ entity.columns
  name_eq : Naming.columnName column.toElement = .ok name
  /-- The lines from `CREATE TABLE` to the closing parenthesis stand in the script. -/
  table_infix : Table.tableItems table (Table.tableColumns table entity) <:+: script.items
  /-- One of them is the line of the column. -/
  line_mem : ∃ last,
    ⟨1, .statement (.tableEntry
        (Table.columnEntry ⟨name, Table.resolveColumn table column⟩) last)⟩ ∈
      Table.tableItems table (Table.tableColumns table entity)

theorem exists_entryStatement {entry : Sql.TableEntry} {entries : List Sql.TableEntry}
    (h : entry ∈ entries) :
    ∃ last, .tableEntry entry last ∈ Table.entryStatements entries := by
  induction entries using Table.entryStatements.induct with
  | case1 => cases h
  | case2 only =>
      rw [List.mem_singleton.1 h]
      exact ⟨true, List.mem_singleton.2 rfl⟩
  | case3 first next rest ih =>
      rcases List.mem_cons.1 h with rfl | h
      · exact ⟨false, List.mem_cons_self ..⟩
      · obtain ⟨last, hlast⟩ := ih h
        exact ⟨last, List.mem_cons_of_mem _ hlast⟩

theorem createsColumn_of_infix {script : Sql.Script} {table name : String} {entity : Entity}
    {column : Column} (hcolumn : column ∈ entity.columns)
    (hname : Naming.columnName column.toElement = .ok name)
    (htable : Table.tableItems table (Table.tableColumns table entity) <:+: script.items) :
    CreatesColumn script table entity column name := by
  refine ⟨hcolumn, hname, htable, ?_⟩
  have hnamed : ⟨name, Table.resolveColumn table column⟩ ∈ Table.tableColumns table entity := by
    refine List.mem_filterMap.2 ⟨Table.resolveColumn table column,
      List.mem_map.2 ⟨column, hcolumn, rfl⟩, ?_⟩
    have hresolved : (Table.resolveColumn table column).name = some name := by
      change (Naming.columnName column.toElement).toOption = some name
      rw [hname]
      rfl
    rw [hresolved]
    rfl
  have hentry : Table.columnEntry ⟨name, Table.resolveColumn table column⟩ ∈
      Table.tableEntries (Table.tableColumns table entity) :=
    List.mem_append_left _ (List.mem_map.2 ⟨_, hnamed, rfl⟩)
  obtain ⟨last, hlast⟩ := exists_entryStatement hentry
  refine ⟨last, List.mem_append_left _ (List.mem_cons_of_mem _ ?_)⟩
  exact List.mem_map.2 ⟨_, hlast, rfl⟩

theorem of_foreignKey?_eq_some {index : Index} {table tableName : String} {column : Column}
    {key : Sql.ForeignKey} (h : Table.foreignKey? index table tableName column = some key) :
    key.table = table ∧ Naming.columnName column.toElement = .ok key.column ∧
      ∃ target referred owner,
        Table.referenceTarget? column = some target ∧
        index.column? (.named target) = some referred ∧
        index.owner? (.column referred) = some owner ∧
        Naming.columnName referred.toElement = .ok key.refColumn ∧
        Naming.prefixedTableName (Table.prefixOf (index.owner? owner)) owner.element =
          .ok key.refTable ∧
        Naming.schemaName? ((index.dataModelOf? owner).map (·.toElement)) =
          .ok key.refSchema := by
  have hok : ∀ {outcome : Except Naming.NameFault String} {name : String},
      outcome.toOption = some name → outcome = .ok name := by
    intro outcome name h
    cases outcome with
    | error fault => cases h
    | ok found => rw [Option.some.inj h]
  simp only [Table.foreignKey?, Option.bind_eq_bind, Option.bind_eq_some_iff] at h
  obtain ⟨name, hname, target, htarget, referred, hreferred, owner, howner, refColumn, hrefColumn,
    refTable, hrefTable, refSchema, hrefSchema, hkey⟩ := h
  cases hkey
  exact ⟨rfl, hok hname, target, referred, owner, htarget, hreferred, howner, hok hrefColumn,
    hok hrefTable, hok hrefSchema⟩

/-- A generated entity of a project has its table in a file of the project. -/
theorem exists_file_of_tableName {options : Options} {unit : String}
    (hunit : options.indentUnit = .ok unit) {project : Project} {dataModel : DataModel}
    (hmodel : dataModel ∈ project.dataModels) {schema : String}
    (hschema : Naming.schemaName dataModel.toElement = .ok schema) {file : TableFile}
    (hfile : file ∈ tableFiles dataModel) {entity : Entity} (hentity : entity ∈ file.entities)
    {tableName : String}
    (hname : Naming.prefixedTableName file.tablePrefix entity.toElement = .ok tableName) :
    ∃ path script, (path, script) ∈ projectFiles options project ∧
      Table.tableItems (schema ++ "." ++ tableName)
        (Table.tableColumns (schema ++ "." ++ tableName) entity) <:+: script.items := by
  have hgenerated : (Artifact.tables schema file).isWritten options = true := by
    refine List.any_eq_true.2 ⟨entity, hentity, ?_⟩
    rw [Table.isGenerated, hname]
    rfl
  have hartifact : .tables schema file ∈ artifacts project :=
    Artifact.mem_artifacts_of_mem_dataModelArtifacts hmodel
      (Artifact.tables_mem_dataModelArtifacts hschema hfile)
  refine ⟨createPath file.stem,
    ((Artifact.tables schema file).scripts unit options (.ofProject project)).create, ?_, ?_⟩
  · refine List.mem_flatMap.2 ⟨_, hartifact, ?_⟩
    rw [Artifact.files_of_indentUnit hunit, if_pos hgenerated]
    exact List.mem_cons_self ..
  · exact TableFile.tableItems_infix options _ schema hentity hname

end Resolution

namespace Generator

/-- A foreign key that is written names a table of its own script, and the table and the column
that the same run creates for the column referred to. -/
theorem addForeignKey_refers {σ : Type} [Storage.Sink σ] (generator : Generator σ)
    (moment : Log.Moment) (project : Project) (hids : project.HasDistinctIds)
    (hon : generator.options.foreignKeys = true)
    (hsuccess :
      (generator.generate moment (some (.project project))).result.success = true)
    (path : String) (script : Sql.Script) (item : Sql.ScriptItem) (key : Sql.ForeignKey)
    (hscript : (path, script) ∈
      Event.scripts (generator.generate moment (some (.project project))).events)
    (hitem : item ∈ script.items) (hkey : item.line = .statement (.addForeignKey key)) :
    ∃ dataModel ∈ project.dataModels, ∃ file ∈ tableFiles dataModel,
      ∃ entity ∈ file.entities, ∃ column target,
        CreatesColumn script key.table entity column key.column ∧
        Table.referenceTarget? column = some target ∧
        ∃ refModel ∈ project.dataModels, ∃ refFile ∈ tableFiles refModel,
          ∃ refEntity ∈ refFile.entities, ∃ referred refPath refScript,
            referred.id = .named target ∧
            (refPath, refScript) ∈
              Event.scripts (generator.generate moment (some (.project project))).events ∧
            CreatesColumn refScript (key.refSchema ++ "." ++ key.refTable) refEntity referred
              key.refColumn := by
  have hscripts : Event.scripts (generator.generate moment (some (.project project))).events =
      projectFiles generator.options project :=
    scripts_of_success generator moment project hsuccess
  obtain ⟨unit, hunit⟩ := exists_indentUnit_of_success generator moment project hsuccess
  rw [hscripts] at hscript ⊢
  obtain ⟨dataModel, hmodel, schema, hschema, file, hfile, entity, hentity, hcalled, hitems⟩ :=
    exists_entity_of_addForeignKey hon hscript hitem hkey
  obtain ⟨tableName, hname, column, hcolumn, hcalled⟩ := Table.exists_of_mem_entityForeignKeys
    hcalled
  obtain ⟨htable, hcolumnName, target, referred, owner, htarget, hreferred, howner, hrefColumn,
    hrefTable, hrefSchema⟩ := of_foreignKey?_eq_some hcalled
  obtain ⟨⟨above, habove⟩, hid⟩ := Index.mem_of_column? hreferred
  obtain ⟨refModel, hrefModel, refFile, hrefFile, refEntity, hrefEntity, hreferredMem⟩ :=
    Index.exists_entity_of_column_mem habove
  -- what was found on the way up is what the table is generated with on the way down
  obtain ⟨htablePrefix, hdataModel, hcolumns⟩ :=
    Index.resolved_entity hids hrefModel hrefFile hrefEntity
  obtain rfl : owner = .entity refEntity :=
    Option.some.inj (howner.symm.trans (hcolumns referred hreferredMem))
  rw [htablePrefix] at hrefTable
  rw [hdataModel] at hrefSchema
  obtain ⟨refPath, refScript, hrefScript, hrefInfix⟩ :=
    exists_file_of_tableName hunit hrefModel hrefSchema hrefFile hrefEntity hrefTable
  refine ⟨dataModel, hmodel, file, hfile, entity, hentity, column, target, ?_, htarget, refModel,
    hrefModel, refFile, hrefFile, refEntity, hrefEntity, referred, refPath, refScript, hid,
    hrefScript, createsColumn_of_infix hreferredMem hrefColumn hrefInfix⟩
  refine createsColumn_of_infix hcolumn hcolumnName ?_
  rw [htable, hitems]
  exact TableFile.tableItems_infix generator.options _ schema hentity hname

/-- The data model of a table that refers to a later data model. -/
def salesModel : DataModel :=
  { id := .named "sales"
    name := "Sales"
    members := [.entity {
      id := .named "purchase"
      name := "Purchase"
      columns := [{ id := .named "customer", name := "customer", type := "INTEGER",
                    referenceTo := some "number" }] }] }

/-- The data model referred to: its table has a prefix, and it has a schema of its own. -/
def customerModel : DataModel :=
  { id := .named "crm"
    name := "Crm"
    tags := [.ofString "schema" "crm"]
    members := [.diagram {
      id := .named "people"
      name := "People"
      tags := [.ofString "prefix" "t_"]
      entities := [{
        id := .named "customers"
        name := "Customer"
        columns := [{ id := .named "number", name := "number", type := "INTEGER" }] }] }] }

def purchaseProject : Project :=
  { id := .named "shop", name := "Shop", dataModels := [salesModel, customerModel] }

def purchaseRun : Run Storage.Memory :=
  ({ sink := {} } : Generator Storage.Memory).generate ⟨2024, 1, 1, 0, 0, 0, 0⟩
    (some (.project purchaseProject))

/-- The foreign key of the table. -/
def purchaseKey : Sql.ForeignKey :=
  { table := "public.purchase", constraintTable := "purchase", column := "customer",
    refSchema := "crm", refTable := "t_customer", refColumn := "number" }

/-- The script that creates the table. -/
def purchaseScript : Sql.Script :=
  { indentUnit := "    "
    items := [
      ⟨0, .statement (.createTable "public.purchase")⟩,
      ⟨1, .statement (.tableEntry (.column "customer" "integer" false none) true)⟩,
      ⟨0, .text ");"⟩, ⟨0, .blank⟩, ⟨0, .statement (.addForeignKey purchaseKey)⟩] }

theorem addForeignKey_refers_purchase :
    ∃ refEntity referred refPath refScript,
      (refPath, refScript) ∈ Event.scripts purchaseRun.events ∧
        CreatesColumn refScript "crm.t_customer" refEntity referred "number" := by
  have hids : purchaseProject.HasDistinctIds := by
    unfold Project.HasDistinctIds
    decide
  have hsuccess : purchaseRun.result.success = true := by decide +kernel
  have hscript : ("sales_table_create.sql", purchaseScript) ∈
      Event.scripts purchaseRun.events := by decide +kernel
  have hitem : ⟨0, .statement (.addForeignKey purchaseKey)⟩ ∈ purchaseScript.items := by decide
  obtain ⟨-, -, -, -, -, -, -, -, -, -, -, -, -, -, refEntity, -, referred, refPath, refScript, -,
    hrefScript, hcreates⟩ := addForeignKey_refers _ _ purchaseProject hids rfl hsuccess
      "sales_table_create.sql" purchaseScript _ purchaseKey hscript hitem rfl
  exact ⟨refEntity, referred, refPath, refScript, hrefScript, hcreates⟩

end Generator

end Generation
end ErdSql
