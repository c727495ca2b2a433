import ErdSql.Proofs.Entities
import Mathlib.Data.List.Basic

/-!
# The block of a table

What an entity adds to the two scripts of its group.  In the creating script its block begins
with the types of its columns, each followed by its cast; then come the table and what is added
to it, and nothing else is created.  In the dropping script the table comes first, and then the
types in the same order.
-/

namespace ErdSql

namespace Sql

/-- What one script creates and another one drops. -/
inductive Creation where
  | table (name : String)
  | enumeration (name : String)
  | routine (kind : RoutineKind) (name : String)
  | schema (name : String)
  | database (name : String)

def Creation.dropStatement : Creation → Statement
  | .table name => .dropTable name
  | .enumeration name => .dropEnum name
  | .routine kind name => .dropRoutine kind name
  | .schema name => .dropSchema name
  | .database name => .dropDatabase name

def Creation.dropItem (creation : Creation) : ScriptItem :=
  ⟨0, .statement creation.dropStatement⟩

/-- What is dropped can always be written. -/
theorem Creation.all_isWritable_dropItems (creations : List Creation) :
    (creations.map (·.dropItem)).all (·.line.isWritable) = true := by
  rw [List.all_map]
  refine List.all_eq_true.2 fun creation _ => ?_
  cases creation <;> rfl

/-- What the line creates. -/
def Line.created? : Line → Option Creation
  | .statement (.createTable name) => some (.table name)
  | .statement (.createEnum name _) => some (.enumeration name)
  | .statement (.createRoutine kind name) => some (.routine kind name)
  | .statement (.createSchema name _) => some (.schema name)
  | .statement (.createDatabase name) => some (.database name)
  | _ => none

/-- The name and the type of the column to which the line gives a place in a table. -/
def Line.column? : Line → Option (String × String)
  | .statement (.tableEntry (.column name sqlType _ _) _) => some (name, sqlType)
  | _ => none

theorem Line.created?_of_isAddition {line : Line} (h : line.isAddition = true) :
    line.created? = none ∧ line.column? = none := by
  cases line with
  | blank => exact ⟨rfl, rfl⟩
  | text text => exact ⟨rfl, rfl⟩
  | statement statement => cases statement <;> first | exact ⟨rfl, rfl⟩ | cases h

end Sql

namespace Table

/-- The type created for a column of the table, and its labels: there is one if the column has
a name, is of the type `enum` in upper or lower case, and has labels. -/
def enumOf? (table : String) (column : Column) : Option (String × List String) :=
  match Naming.columnName column.toElement with
  | .error _ => none
  | .ok name =>
      if Text.lower (Sql.dataType column) = "enum" ∧
          enumLabels (column.tags.valueOf "enum") ≠ [] then
        some (table ++ "_" ++ name, enumLabels (column.tags.valueOf "enum"))
      else none

/-- The types created for the columns of an entity, in the order of the columns. -/
def enumsOf (table : String) (entity : Entity) : List (String × List String) :=
  entity.columns.filterMap (enumOf? table)

/-- The names of columns, as far as they are valid. -/
def columnNames (columns : List Column) : List String :=
  columns.filterMap fun column => (Naming.columnName column.toElement).toOption

/-- The columns of a table with their types: the type created for a column, or else the type
that it has. -/
def typedColumns (table : String) (entity : Entity) : List (String × String) :=
  entity.columns.filterMap fun column =>
    (Naming.columnName column.toElement).toOption.map fun name =>
      (name, ((enumOf? table column).map (·.1)).getD (Sql.dataType column))

/-- The lines that create types, each followed by the cast of the type. -/
def typeItems (types : List (String × List String)) : List Sql.ScriptItem :=
  types.flatMap fun (type, labels) =>
    [⟨0, .statement (.createEnum type labels)⟩, ⟨0, .blank⟩,
      ⟨0, .statement (.enumCast type)⟩, ⟨0, .blank⟩]

/-- What is created for an entity in the order in which it is dropped. -/
def creations (table : String) (entity : Entity) : List Sql.Creation :=
  .table table :: (enumsOf table entity).map fun (type, _) => .enumeration type

/-- The lines that create the table of an entity and all that belongs to it. -/
structure IsBlock (table : String) (entity : Entity) (items : List Sql.ScriptItem) : Prop where
  /-- The types come first, and nothing is created after the table. -/
  layout : ∃ rest, items =
      typeItems (enumsOf table entity) ++ ⟨0, .statement (.createTable table)⟩ :: rest ∧
    ∀ item ∈ rest, item.line.created? = none
  /-- The lines of the columns use the types. -/
  columns : items.filterMap (·.line.column?) = typedColumns table entity

section Columns

variable (table : String) (column : Column) (entity : Entity)

theorem column_resolveColumn : (resolveColumn table column).column = column := rfl

theorem default_resolveColumn :
    (resolveColumn table column).default =
      if column.tags.valueOf "default" = "" then none
      else some (column.tags.valueOf "default") :=
  rfl

theorem enumeration_resolveColumn :
    ((resolveColumn table column).enumeration.map fun type =>
        (type, (resolveColumn table column).labels)) = enumOf? table column := by
  unfold resolveColumn enumOf? isEnumType enumType
  cases Naming.columnName column.toElement with
  | error fault => simp [Except.toOption]
  | ok name =>
      by_cases henum : Text.lower (Sql.dataType column) = "enum"
      · by_cases hlabels : enumLabels (column.tags.valueOf "enum") = []
        · simp [henum, hlabels]
        · simp [Except.toOption, henum, hlabels]
      · simp [henum]

theorem enumerations_map_resolveColumn :
    enumerations (entity.columns.map (resolveColumn table)) = enumsOf table entity := by
  unfold enumerations enumsOf
  rw [List.filterMap_map]
  refine List.filterMap_congr fun column _ => ?_
  rw [← enumeration_resolveColumn]
  rfl

theorem sqlType_resolveColumn :
    (resolveColumn table column).sqlType =
      ((enumOf? table column).map (·.1)).getD (Sql.dataType column) := by
  have hown : (resolveColumn table column).sqlType =
      (resolveColumn table column).enumeration.getD (Sql.dataType column) := by
    simp only [resolveColumn]
  rw [hown, ← enumeration_resolveColumn, Option.map_map]
  cases (resolveColumn table column).enumeration <;> rfl

theorem map_tableColumns :
    (tableColumns table entity).map (fun c => (c.name, c.resolved.sqlType)) =
      typedColumns table entity := by
  rw [tableColumns_eq, typedColumns, List.map_filterMap]
  refine List.filterMap_congr fun column _ => ?_
  rw [← sqlType_resolveColumn, Option.map_map]
  rfl

end Columns

section Body

theorem exists_of_mem_entryStatements {entries : List Sql.TableEntry}
    {statement : Sql.Statement} (h : statement ∈ entryStatements entries) :
    ∃ entry last, statement = .tableEntry entry last := by
  induction entries using entryStatements.induct with
  | case1 => cases h
  | case2 entry => exact ⟨entry, true, List.mem_singleton.1 h⟩
  | case3 entry next rest ih =>
      rcases List.mem_cons.1 h with rfl | h
      · exact ⟨entry, false, rfl⟩
      · exact ih h

variable {β : Type} {f : Sql.Line → Option β}

/-- What is read of lines is there for the entries of columns only, and the commas between the
entries do not matter. -/
structure ReadsColumns (f : Sql.Line → Option β) : Prop where
  eq_none : ∀ line : Sql.Line, line.column? = none → f line = none
  last : ∀ entry isLast,
    f (.statement (.tableEntry entry isLast)) = f (.statement (.tableEntry entry true))

theorem readsColumns_column? : ReadsColumns Sql.Line.column? where
  eq_none := fun _ h => h
  last := fun entry _ => by cases entry <;> rfl

theorem ReadsColumns.filterMap_entryStatements (hf : ReadsColumns f)
    (entries : List Sql.TableEntry) :
    (entryStatements entries).filterMap (fun s => f (.statement s)) =
      entries.filterMap fun entry => f (.statement (.tableEntry entry true)) := by
  induction entries using entryStatements.induct with
  | case1 => rfl
  | case2 entry => rfl
  | case3 entry next rest ih =>
      rw [entryStatements, List.filterMap_cons, List.filterMap_cons, ih, hf.last]

theorem ReadsColumns.filterMap_tableItems (hf : ReadsColumns f) (table : String)
    (columns : List NamedColumn) :
    (tableItems table columns).filterMap (fun item => f item.line) =
      columns.filterMap fun c => f (.statement (.tableEntry (columnEntry c) true)) := by
  have hkeys : ∀ keys : List String,
      (if keys.isEmpty then [] else [Sql.TableEntry.primaryKey keys]).filterMap
        (fun entry => f (.statement (.tableEntry entry true))) = [] := by
    intro keys
    split
    · rfl
    · exact List.filterMap_cons_none (hf.eq_none _ rfl)
  have hentries : ((entryStatements (tableEntries columns)).map
      fun s => (⟨1, .statement s⟩ : Sql.ScriptItem)).filterMap (fun item => f item.line) =
        columns.filterMap fun c => f (.statement (.tableEntry (columnEntry c) true)) := by
    rw [List.filterMap_map]
    refine (hf.filterMap_entryStatements (tableEntries columns)).trans ?_
    unfold tableEntries
    rw [List.filterMap_append, hkeys, List.append_nil, List.filterMap_map]
    rfl
  have hcreate : f (.statement (.createTable table)) = none := hf.eq_none _ rfl
  have hend : f (.text ");") = none := hf.eq_none _ rfl
  simp only [tableItems, List.filterMap_append, List.filterMap_cons, List.filterMap_nil, hcreate,
    hentries, hend, List.append_nil]

theorem ReadsColumns.filterMap_typeItems (hf : ReadsColumns f)
    (types : List (String × List String)) :
    (typeItems types).filterMap (fun item => f item.line) = [] := by
  rw [typeItems, List.filterMap_flatMap]
  refine List.flatMap_eq_nil_iff.2 fun type _ => List.filterMap_eq_nil_iff.2 fun item hitem => ?_
  simp only [List.mem_cons, List.not_mem_nil, or_false] at hitem
  rcases hitem with rfl | rfl | rfl | rfl <;> exact hf.eq_none _ rfl

end Body

section Edits

variable (options : Options) (index : Index) (schema tablePrefix : String) (entity : Entity)

theorem filterMap_reports {β : Type} {f : Edit → Option β} (hf : ∀ e, f (.event e) = none)
    (ds : List Diagnostic) : (ds.map reportEdit).filterMap f = [] := by
  rw [List.filterMap_map]
  exact List.filterMap_eq_nil_iff.2 fun d _ => hf (.report d)

theorem createItems_openingEdits (table : String) :
    (openingEdits table entity).filterMap Edit.createItem? =
      typeItems (enumsOf table entity) := by
  have hdrops : (dropEdits table (entity.columns.map (resolveColumn table))).filterMap
      Edit.createItem? = [] := by
    refine List.filterMap_eq_nil_iff.2 fun edit hedit => ?_
    rcases List.mem_cons.1 hedit with rfl | hedit
    · rfl
    · obtain ⟨type, -, rfl⟩ := List.mem_map.1 hedit
      rfl
  have hreports := filterMap_reports (f := Edit.createItem?) fun _ => rfl
  simp only [openingEdits, List.filterMap_append, hreports, hdrops, List.append_nil]
  rw [enumEdits, enumerations_map_resolveColumn, List.filterMap_flatMap]
  rfl

theorem dropItems_openingEdits (table : String) :
    (openingEdits table entity).filterMap Edit.dropItem? =
      (creations table entity).map (·.dropItem) := by
  have hcreates : (enumEdits (entity.columns.map (resolveColumn table))).filterMap
      Edit.dropItem? = [] := by
    rw [enumEdits, List.filterMap_flatMap]
    exact List.flatMap_eq_nil_iff.2 fun _ _ => rfl
  have hreports := filterMap_reports (f := Edit.dropItem?) fun _ => rfl
  simp only [openingEdits, List.filterMap_append, hreports, hcreates, List.append_nil]
  rw [dropEdits, enumerations_map_resolveColumn, creations, List.map_cons, List.map_map]
  change _ :: ((enumsOf table entity).map _).filterMap Edit.dropItem? = _
  rw [List.filterMap_map, ← List.filterMap_eq_map]
  rfl

theorem dropItems_closingEdits (table tableName : String) :
    (closingEdits options table tableName entity).filterMap Edit.dropItem? = [] := by
  have hfurther := furtherEdits_isAddition options table tableName entity
  rw [closingEdits_eq, List.filterMap_append, List.append_eq_nil_iff]
  constructor
  · simp only [bodyEdits, List.filterMap_append, List.filterMap_map]
    have hentries : ∀ statements : List Sql.Statement,
        statements.filterMap (Edit.dropItem? ∘ fun s => Edit.create 1 (.statement s)) = [] :=
      fun _ => List.filterMap_eq_nil_iff.2 fun _ _ => rfl
    rw [hentries]
    rfl
  · refine List.filterMap_eq_nil_iff.2 fun edit hedit => ?_
    have haddition := List.all_eq_true.1 hfurther edit hedit
    cases edit <;> first | rfl | cases haddition

/-- Lines that come after the body of a table create nothing and are no columns. -/
theorem of_mem_createItems_furtherEdits {table tableName : String} {item : Sql.ScriptItem}
    (h : item ∈ (furtherEdits options table tableName entity).filterMap Edit.createItem?) :
    item.line.created? = none ∧ item.line.column? = none := by
  obtain ⟨edit, hedit, hitem⟩ := List.mem_filterMap.1 h
  have haddition := List.all_eq_true.1 (furtherEdits_isAddition options table tableName entity)
    edit hedit
  cases edit with
  | create depth line =>
      cases hitem
      exact Sql.Line.created?_of_isAddition haddition
  | event e => cases hitem
  | drop line => cases hitem
  | defer key => cases hitem
  | complete table => cases hitem

/-- Reading the columns in the lines that an entity whose table has a name adds to the creating
script. -/
theorem ReadsColumns.filterMap_createItems {β : Type} {f : Sql.Line → Option β}
    (hf : ReadsColumns f) {tableName : String}
    (h : Naming.prefixedTableName tablePrefix entity.toElement = .ok tableName) :
    ((entityEdits options index schema tablePrefix entity).filterMap Edit.createItem?).filterMap
        (fun item => f item.line) =
      (tableColumns (schema ++ "." ++ tableName) entity).filterMap fun c =>
        f (.statement (.tableEntry (columnEntry c) true)) := by
  rw [entityEdits_of_ok _ _ _ _ _ h]
  generalize schema ++ "." ++ tableName = table
  have hblank : f .blank = none := hf.eq_none _ rfl
  have hfurther : ((furtherEdits options table tableName entity).filterMap
      Edit.createItem?).filterMap (fun item => f item.line) = [] :=
    List.filterMap_eq_nil_iff.2 fun item hitem =>
      hf.eq_none _ (of_mem_createItems_furtherEdits options entity hitem).2
  simp only [List.filterMap_append, createItems_openingEdits, createItems_referenceEdits,
    closingEdits_eq, createItems_bodyEdits, hfurther, hf.filterMap_typeItems,
    hf.filterMap_tableItems, List.filterMap_cons, List.filterMap_nil, hblank, List.nil_append,
    List.append_nil]

/-- An entity whose table has a name adds a block to the creating script. -/
theorem isBlock_createItems {tableName : String}
    (h : Naming.prefixedTableName tablePrefix entity.toElement = .ok tableName) :
    IsBlock (schema ++ "." ++ tableName) entity
      ((entityEdits options index schema tablePrefix entity).filterMap Edit.createItem?) := by
  constructor
  · rw [entityEdits_of_ok _ _ _ _ _ h]
    generalize schema ++ "." ++ tableName = table
    simp only [List.filterMap_append, createItems_openingEdits, createItems_referenceEdits,
      List.nil_append, closingEdits_eq, createItems_bodyEdits]
    refine ⟨((entryStatements (tableEntries (tableColumns table entity))).map
      fun s => ⟨1, .statement s⟩) ++ ⟨0, .text ");"⟩ :: ⟨0, .blank⟩ ::
        (furtherEdits options table tableName entity).filterMap Edit.createItem?,
      by simp [tableItems], ?_⟩
    intro item hitem
    simp only [List.mem_append, List.mem_map, List.mem_cons] at hitem
    rcases hitem with ⟨statement, hstatement, rfl⟩ | rfl | rfl | hitem
    · obtain ⟨entry, last, rfl⟩ := exists_of_mem_entryStatements hstatement
      rfl
    · rfl
    · rfl
    · exact (of_mem_createItems_furtherEdits options entity hitem).1
  · rw [readsColumns_column?.filterMap_createItems options index schema tablePrefix entity h,
      ← map_tableColumns, ← List.filterMap_eq_map]
    rfl

/-- What an entity whose table has a name adds to the dropping script. -/
theorem dropItems_entityEdits {tableName : String}
    (h : Naming.prefixedTableName tablePrefix entity.toElement = .ok tableName) :
    (entityEdits options index schema tablePrefix entity).filterMap Edit.dropItem? =
      (creations (schema ++ "." ++ tableName) entity).map (·.dropItem) := by
  rw [entityEdits_of_ok _ _ _ _ _ h]
  simp only [List.filterMap_append, dropItems_openingEdits, dropItems_closingEdits,
    dropItems_referenceEdits, List.append_nil]

end Edits

end Table
end ErdSql
