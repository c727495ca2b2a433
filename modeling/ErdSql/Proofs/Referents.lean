import ErdSql.Proofs.Deletion
import ErdSql.Proofs.ForeignKeys

/-!
# What references find

Where all elements of a project have different identities, a column calls for a foreign key
exactly if some column of the project has the identity that it refers to and has a name, in a
table and a schema that have names.  Elements that become nothing are none of them, so that
references find the same without those elements.
-/

namespace ErdSql

open Generation

/-- Some column of the project has the identity; it, its table and its schema have the names. -/
def Project.Declares (project : Project) (id : ElementId) (schema table column : String) :
    Prop :=
  ∃ dataModel ∈ project.dataModels, ∃ file ∈ tableFiles dataModel, ∃ entity ∈ file.entities,
    ∃ found ∈ entity.columns, found.id = id ∧
      Naming.columnName found.toElement = .ok column ∧
      Naming.prefixedTableName file.tablePrefix entity.toElement = .ok table ∧
      Naming.schemaName dataModel.toElement = .ok schema

namespace Table

theorem constraintTable_of_foreignKey? {index : Index} {table tableName : String}
    {column : Column} {key : Sql.ForeignKey}
    (h : foreignKey? index table tableName column = some key) : key.constraintTable = tableName := by
  simp only [foreignKey?, Option.bind_eq_bind, Option.bind_eq_some_iff] at h
  obtain ⟨_, -, _, -, _, -, _, -, _, -, _, -, _, -, hkey⟩ := h
  cases hkey
  rfl

/-- A column calls for a foreign key exactly if the project declares what it refers to. -/
theorem foreignKey?_eq_some_iff {project : Project} (hids : project.HasDistinctIds)
    {table tableName : String} {column : Column} {key : Sql.ForeignKey} :
    foreignKey? (.ofProject project) table tableName column = some key ↔
      key.table = table ∧ key.constraintTable = tableName ∧
        Naming.columnName column.toElement = .ok key.column ∧
        ∃ target, referenceTarget? column = some target ∧
          project.Declares (.named target) key.refSchema key.refTable key.refColumn := by
  constructor
  · intro h
    obtain ⟨htable, hcolumn, target, referred, owner, htarget, hreferred, howner, hrefColumn,
      hrefTable, hrefSchema⟩ := of_foreignKey?_eq_some h
    obtain ⟨⟨above, habove⟩, hid⟩ := Index.mem_of_column? hreferred
    obtain ⟨dataModel, hmodel, file, hfile, entity, hentity, hmem⟩ :=
      Index.exists_entity_of_column_mem habove
    obtain ⟨htablePrefix, hdataModel, hcolumns⟩ := Index.resolved_entity hids hmodel hfile hentity
    obtain rfl : owner = .entity entity :=
      Option.some.inj (howner.symm.trans (hcolumns referred hmem))
    rw [htablePrefix] at hrefTable
    rw [hdataModel] at hrefSchema
    exact ⟨htable, constraintTable_of_foreignKey? h, hcolumn, target, htarget, dataModel, hmodel,
      file, hfile, entity, hentity, referred, hmem, hid, hrefColumn, hrefTable, hrefSchema⟩
  · rintro ⟨htable, hconstraint, hcolumn, target, htarget, dataModel, hmodel, file, hfile, entity,
      hentity, referred, hmem, hid, hrefColumn, hrefTable, hrefSchema⟩
    obtain ⟨owner, hplaced, -⟩ := Index.entity_mem hmodel hfile hentity
    have hreferred : (Index.ofProject project).column? (.named target) = some referred := by
      rw [← hid]
      have hcolumn : ⟨.column referred, some (.entity entity)⟩ ∈ Index.ofEntity owner entity :=
        List.mem_cons_of_mem _ (List.mem_map.2 ⟨referred, hmem, rfl⟩)
      exact Index.column?_of_mem hids (hplaced _ hcolumn)
    obtain ⟨htablePrefix, hdataModel, hcolumns⟩ := Index.resolved_entity hids hmodel hfile hentity
    have hrefTable' : Naming.prefixedTableName
        (prefixOf ((Index.ofProject project).owner? (.entity entity)))
          (Node.entity entity).element = .ok key.refTable := by
      rw [htablePrefix]
      exact hrefTable
    have hrefSchema' : Naming.schemaName?
        (((Index.ofProject project).dataModelOf? (.entity entity)).map (·.toElement)) =
          .ok key.refSchema := by
      rw [hdataModel]
      exact hrefSchema
    simp only [foreignKey?, hcolumn, htarget, hreferred, hcolumns referred hmem, hrefColumn,
      hrefTable', hrefSchema', Option.bind_eq_bind, Except.toOption, Option.bind_some]
    rw [← htable, ← hconstraint]
    rfl

end Table

section Without

variable {gone : ElementId → Bool} {options : Options} {project : Project}

/-- Without elements that become nothing, the project declares the same. -/
theorem Project.declares_without_iff (hspare : project.CanSpare gone options)
    {id : ElementId} {schema table column : String} :
    (project.without gone).Declares id schema table column ↔
      project.Declares id schema table column := by
  constructor
  · rintro ⟨_, hmodel, _, hfile, _, hentity, found, hfound, hid, hcolumn, htable, hschema⟩
    obtain ⟨dataModel, hmodelMem, rfl⟩ := List.mem_map.1 hmodel
    rw [tableFiles_without] at hfile
    obtain ⟨file, hfileMem, rfl⟩ := List.mem_map.1 hfile
    obtain ⟨entity, hentityMem, rfl⟩ := List.mem_map.1 hentity
    exact ⟨dataModel, hmodelMem, file, hfileMem, entity, (List.mem_filter.1 hentityMem).1, found,
      (List.mem_filter.1 hfound).1, hid, hcolumn, htable, hschema⟩
  · rintro ⟨dataModel, hmodel, file, hfile, entity, hentity, found, hfound, hid, hcolumn, htable,
      hschema⟩
    have hspared := hspare dataModel hmodel file hfile entity hentity
    have hkept : gone entity.id = false := by
      by_contra hgone
      have hnone := hspared.table (by simpa using hgone)
      rw [Table.isGenerated, htable] at hnone
      cases hnone
    have hkeptColumn : gone found.id = false := by
      by_contra hgone
      have hnone := (hspared.columns hkept found hfound (by simpa using hgone)).1
      rw [hcolumn] at hnone
      cases hnone
    refine ⟨_, List.mem_map_of_mem hmodel, file.without gone, ?_, entity.without gone, ?_, found,
      List.mem_filter.2 ⟨hfound, by simp [hkeptColumn]⟩, hid, hcolumn, htable, hschema⟩
    · rw [tableFiles_without]
      exact List.mem_map_of_mem hfile
    · exact List.mem_map_of_mem (List.mem_filter.2 ⟨hentity, by simp [hkept]⟩)

/-- Without elements that become nothing, columns call for the same foreign keys. -/
theorem Table.foreignKey?_without (hids : project.HasDistinctIds)
    (hspare : project.CanSpare gone options) (table tableName : String)
    (column : Column) :
    foreignKey? (.ofProject (project.without gone)) table tableName column =
      foreignKey? (.ofProject project) table tableName column := by
  refine Option.ext fun key => ?_
  rw [foreignKey?_eq_some_iff (hids.without gone), foreignKey?_eq_some_iff hids]
  simp only [Project.declares_without_iff hspare]

end Without

end ErdSql
