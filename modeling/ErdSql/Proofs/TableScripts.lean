import ErdSql.Proofs.TableBlocks

/-!
# Scripts of tables

What generating the table of an entity writes, line by line.  After the types of its columns the
table is laid out: one entry for each column that has a name, then the primary key, with commas
between them; then the unique columns and the indexes of the foreign key columns.  The columns
are looked at once, and each is of one class.  Whatever stops the writing stops it before the
table begins or after it is laid out, never in between.
-/

namespace ErdSql

namespace Sql

/-- The texts, with a comma after each but the last. -/
def withCommas (texts : List String) : List String :=
  texts.mapIdx fun i text => if i + 1 < texts.length then text ++ "," else text

theorem withCommas_cons_cons (text next : String) (rest : List String) :
    withCommas (text :: next :: rest) = (text ++ ",") :: withCommas (next :: rest) := by
  simp [withCommas, List.mapIdx_cons]

/-- Whether the line lays out a table: it begins a table, is an entry of one, makes columns unique
or makes an index. -/
def Line.isLayout : Line → Bool
  | .statement (.createTable _) => true
  | .statement (.tableEntry _ _) => true
  | .statement (.addUnique _ _) => true
  | .statement (.createIndex _ _) => true
  | _ => false

end Sql

namespace Table

/-- Whether the labels of the types created for an entity all have a literal. -/
def hasWritableTypes (table : String) (entity : Entity) : Bool :=
  (enumsOf table entity).all fun (_, labels) => labels.all Sql.hasLiteral

section Columns

variable (table : String) (entity : Entity)

/-- The type of a column in its table: the type created for it, or else the one that it has. -/
def columnType (column : Column) : String :=
  ((enumOf? table column).map (·.1)).getD (Sql.dataType column)

/-- The entry of a column with the given name, as text. -/
def columnText (name : String) (column : Column) : String :=
  name ++ " " ++ columnType table column ++
    (if column.primaryKey || !column.nullable then " NOT NULL" else "") ++
      match effectiveDefault (resolveColumn table column) with
      | some value => " DEFAULT " ++ value
      | none => ""

/-- The entries of the columns that have a name. -/
def columnTexts : List String :=
  entity.columns.filterMap fun column =>
    (Naming.columnName column.toElement).toOption.map fun name => columnText table name column

def primaryColumns : List Column :=
  entity.columns.filter (·.primaryKey)

/-- The columns that are unique without being in the primary key. -/
def uniqueColumns : List Column :=
  entity.columns.filter fun c => !c.primaryKey && c.unique

/-- The foreign key columns that are neither in the primary key nor unique. -/
def foreignColumns : List Column :=
  entity.columns.filter fun c => !c.primaryKey && !c.unique && c.foreignKey

/-- The columns that are part of no key. -/
def plainColumns : List Column :=
  entity.columns.filter fun c => !c.primaryKey && !c.unique && !c.foreignKey

/-- The entry of the primary key, if there is one. -/
def primaryTexts : List String :=
  if columnNames (primaryColumns entity) = [] then []
  else ["PRIMARY KEY (" ++ String.intercalate ", " (columnNames (primaryColumns entity)) ++ ")"]

/-- The lines of a table with the given entries. -/
def bodyItems (entries : List Sql.Statement) : List Sql.ScriptItem :=
  ⟨0, .statement (.createTable table)⟩ ::
    ((entries.map fun s => ⟨1, .statement s⟩) ++ [⟨0, .text ");"⟩, ⟨0, .blank⟩])

/-- The lines that make columns unique, and those of the indexes of foreign key columns. -/
def keyItems : List Sql.ScriptItem :=
  (if columnNames (uniqueColumns entity) = [] then []
    else [⟨0, .statement (.addUnique table (columnNames (uniqueColumns entity)))⟩, ⟨0, .blank⟩]) ++
    if columnNames (foreignColumns entity) = [] then []
    else ((columnNames (foreignColumns entity)).map fun name =>
      ⟨0, .statement (.createIndex table [⟨name, false⟩])⟩) ++ [⟨0, .blank⟩]

/-- Lines that lay out the table of an entity: its types, its body with the entries that the
columns and the primary key call for, and what its keys add. -/
def LaysOut (items : List Sql.ScriptItem) : Prop :=
  ∃ entries : List Sql.Statement,
    items = typeItems (enumsOf table entity) ++ bodyItems table entries ++ keyItems table entity ∧
      entries.map (·.text) = Sql.withCommas (columnTexts table entity ++ primaryTexts entity)

theorem texts_entryStatements (entries : List Sql.TableEntry) :
    (entryStatements entries).map (·.text) = Sql.withCommas (entries.map (·.text)) := by
  induction entries using entryStatements.induct with
  | case1 => rfl
  | case2 entry => rfl
  | case3 entry next rest ih =>
      simp only [List.map_cons] at ih
      simp only [entryStatements, List.map_cons, ih, Sql.withCommas_cons_cons]
      rfl

theorem effectiveDefault_ne_empty (column : Column) :
    effectiveDefault (resolveColumn table column) ≠ some "" := by
  unfold effectiveDefault
  split
  · nofun
  · simp only [resolveColumn]
    split
    · nofun
    · rename_i hvalue
      exact fun h => hvalue (Option.some.inj h)

theorem text_columnEntry (name : String) (column : Column) :
    (columnEntry ⟨name, resolveColumn table column⟩).text = columnText table name column := by
  have hdefault := effectiveDefault_ne_empty table column
  unfold columnEntry columnText Sql.TableEntry.text Sql.isRequired columnType
  rw [← sqlType_resolveColumn]
  cases heffective : effectiveDefault (resolveColumn table column) with
  | none => rfl
  | some value =>
      have hvalue : value ≠ "" := fun h => hdefault (h ▸ heffective)
      simp only [if_neg hvalue]
      rfl

/-- The columns of a class. -/
def columnsOfClass : KeyClass → List Column
  | .primary => primaryColumns entity
  | .unique => uniqueColumns entity
  | .foreign => foreignColumns entity
  | .plain => plainColumns entity

theorem columnsOfClass_eq (keys : KeyClass) :
    columnsOfClass entity keys = entity.columns.filter fun c => keyClass c = keys := by
  cases keys <;> refine congrArg (List.filter · entity.columns) (funext fun c => ?_) <;>
    unfold keyClass <;>
    cases c.primaryKey <;> cases c.unique <;> cases c.foreignKey <;> rfl

theorem namesOfClass_tableColumns (keys : KeyClass) :
    namesOfClass keys (tableColumns table entity) =
      columnNames (columnsOfClass entity keys) := by
  rw [columnsOfClass_eq]
  unfold namesOfClass columnNames
  rw [tableColumns_eq, List.filter_filterMap, List.map_filterMap, List.filterMap_filter]
  refine List.filterMap_congr fun column _ => ?_
  cases (Naming.columnName column.toElement).toOption with
  | none => simp
  | some name =>
      by_cases hkeys : keyClass column = keys <;>
        simp [Option.filter, column_resolveColumn, hkeys]

theorem texts_tableEntries :
    (tableEntries (tableColumns table entity)).map (·.text) =
      columnTexts table entity ++ primaryTexts entity := by
  have hcolumns : ((tableColumns table entity).map columnEntry).map (·.text) =
      columnTexts table entity := by
    rw [tableColumns_eq, columnTexts, List.map_map, List.map_filterMap]
    refine List.filterMap_congr fun column _ => ?_
    simp only [Function.comp_def, Option.map_map, text_columnEntry]
  have hprimary : (if (columnNames (primaryColumns entity)).isEmpty then []
      else [Sql.TableEntry.primaryKey (columnNames (primaryColumns entity))]).map (·.text) =
        primaryTexts entity := by
    unfold primaryTexts
    generalize columnNames (primaryColumns entity) = names
    cases names <;> rfl
  simp only [tableEntries, namesOfClass_tableColumns, columnsOfClass, List.map_append, hcolumns,
    hprimary]

theorem perm_filter_filter {α : Type} (p q : α → Bool) (l : List α) :
    (l.filter (fun a => p a && q a) ++ l.filter fun a => p a && !q a).Perm (l.filter p) := by
  have hsplit := List.filter_append_perm q (l.filter p)
  rw [List.filter_filter, List.filter_filter] at hsplit
  simpa only [Bool.and_comm] using hsplit

/-- Each column is of one class. -/
theorem perm_columns :
    (primaryColumns entity ++ (uniqueColumns entity ++
      (foreignColumns entity ++ plainColumns entity))).Perm entity.columns := by
  have hfirst := List.filter_append_perm (fun c : Column => c.primaryKey) entity.columns
  have hsecond := perm_filter_filter (fun c : Column => !c.primaryKey) (·.unique) entity.columns
  have hthird := perm_filter_filter (fun c : Column => !c.primaryKey && !c.unique) (·.foreignKey)
    entity.columns
  exact (((hthird.append_left _).trans hsecond).append_left _).trans hfirst

end Columns

section Edits

variable (options : Options) (index : Index) (table tableName : String) (entity : Entity)

/-- The changes that lay out the table after its types. -/
def layoutEdits : List Edit :=
  bodyEdits table (tableColumns table entity) ++ uniqueEdits table (tableColumns table entity) ++
    foreignIndexEdits table (tableColumns table entity)

/-- The changes that come after the indexes of a table. -/
def remainingEdits : List Edit :=
  let mode := documentationMode options entity
  commentEdits mode table entity (tableColumns table entity) ++
    triggerEdits options entity table tableName ++
    (if mode = .seedInserts then seedEdits table entity (entity.columns.map (resolveColumn table))
      else []) ++ [.complete table]

theorem closingEdits_eq_layout :
    closingEdits options table tableName entity =
      layoutEdits table entity ++ (userIndexEdits table (tableColumns table entity) ++
        remainingEdits options table tableName entity) := by
  simp only [closingEdits, layoutEdits, remainingEdits, tableColumns, List.append_assoc]

theorem createItems_layoutEdits :
    ∃ entries : List Sql.Statement,
      (layoutEdits table entity).filterMap Edit.createItem? =
        bodyItems table entries ++ keyItems table entity ∧
      entries.map (·.text) = Sql.withCommas (columnTexts table entity ++ primaryTexts entity) := by
  refine ⟨entryStatements (tableEntries (tableColumns table entity)), ?_, ?_⟩
  · have hunique : (uniqueEdits table (tableColumns table entity)).filterMap Edit.createItem? =
        if columnNames (uniqueColumns entity) = [] then []
        else [⟨0, .statement (.addUnique table (columnNames (uniqueColumns entity)))⟩,
          ⟨0, .blank⟩] := by
      rw [uniqueEdits, namesOfClass_tableColumns, columnsOfClass]
      cases columnNames (uniqueColumns entity) <;> rfl
    have hforeign : (foreignIndexEdits table (tableColumns table entity)).filterMap
        Edit.createItem? =
          if columnNames (foreignColumns entity) = [] then []
          else ((columnNames (foreignColumns entity)).map fun name =>
            ⟨0, .statement (.createIndex table [⟨name, false⟩])⟩) ++ [⟨0, .blank⟩] := by
      rw [foreignIndexEdits, namesOfClass_tableColumns, columnsOfClass]
      generalize columnNames (foreignColumns entity) = names
      have hindexes : (names.map fun name =>
          createStatement (.createIndex table [⟨name, false⟩])).filterMap Edit.createItem? =
            names.map fun name => ⟨0, .statement (.createIndex table [⟨name, false⟩])⟩ := by
        rw [List.filterMap_map, ← List.filterMap_eq_map]
        rfl
      cases names with
      | nil => rfl
      | cons name names =>
          rw [if_neg (List.cons_ne_nil _ _), if_neg (by simp), List.filterMap_append, hindexes]
          rfl
    rw [layoutEdits, List.filterMap_append, List.filterMap_append, createItems_bodyEdits, hunique,
      hforeign, List.append_assoc]
    simp only [bodyItems, keyItems, tableItems, List.cons_append, List.append_assoc,
      List.nil_append]
  · rw [texts_entryStatements, texts_tableEntries]

/-- Whether the change, if it adds a line to the creating script, adds none of the layout. -/
def Edit.isNoLayout (edit : Edit) : Bool :=
  match edit.createItem? with
  | some item => !item.line.isLayout
  | none => true

theorem all_isNoLayout_remainingEdits :
    (remainingEdits options table tableName entity).all Edit.isNoLayout = true := by
  have hblank : Edit.isNoLayout blankLine = true := rfl
  have hseeds : (if documentationMode options entity = .seedInserts then
      seedEdits table entity (entity.columns.map (resolveColumn table)) else []).all
        Edit.isNoLayout = true := by
    split
    · exact all_seedEdits table hblank (fun _ _ => rfl) _ _
    · rfl
  simp only [remainingEdits, List.all_append, all_commentEdits table hblank fun _ _ _ => rfl,
    all_triggerEdits table hblank (fun _ => rfl) (fun _ _ => rfl) fun _ => rfl, hseeds,
    Bool.true_and]
  rfl

theorem isLayout_of_mem_remainingEdits {item : Sql.ScriptItem}
    (h : item ∈ (remainingEdits options table tableName entity).filterMap Edit.createItem?) :
    item.line.isLayout = false := by
  obtain ⟨edit, hedit, hitem⟩ := List.mem_filterMap.1 h
  have hnone := List.all_eq_true.1 (all_isNoLayout_remainingEdits options table tableName entity)
    edit hedit
  rw [Edit.isNoLayout, hitem] at hnone
  simpa using hnone

/-- Changes that have nothing to do with foreign keys do not depend on whether those have been
written. -/
theorem Edit.isAccepted_of_isPlain (flushed : Bool) {edit : Edit} (h : edit.isPlain = true) :
    edit.isAccepted flushed = edit.isWritable := by
  cases edit with
  | event e => rfl
  | create depth line =>
      cases hline : line.isWritable <;> simp [isAccepted, fault?, isWritable, hline]
  | drop line =>
      cases hline : line.isWritable <;> simp [isAccepted, fault?, isWritable, hline]
  | defer key => cases h
  | complete table => rfl

theorem all_isAccepted_of_isPlain (flushed : Bool) {edits : List Edit}
    (h : edits.all Edit.isPlain = true) :
    edits.all (Edit.isAccepted flushed) = edits.all Edit.isWritable := by
  rw [Bool.eq_iff_iff, List.all_eq_true, List.all_eq_true]
  refine forall₂_congr fun edit hedit => ?_
  rw [Edit.isAccepted_of_isPlain flushed (List.all_eq_true.1 h edit hedit)]

/-- Of the types of a table, only the labels can keep the changes from being made. -/
theorem all_isAccepted_openingEdits (flushed : Bool) :
    (openingEdits table entity).all (Edit.isAccepted flushed) = hasWritableTypes table entity := by
  have htypes : ∀ types : List (String × List String),
      (typeItems types).all (·.line.isWritable) =
        types.all fun (_, labels) => labels.all Sql.hasLiteral := by
    intro types
    rw [typeItems, List.all_flatMap]
    simp [Sql.Line.isWritable, Sql.Statement.isWritable, Sql.Statement.literals]
  rw [all_isAccepted_of_isPlain flushed (openingEdits_isPlain table entity),
    Edit.all_isWritable_eq, createItems_openingEdits, dropItems_openingEdits, htypes,
    Sql.Creation.all_isWritable_dropItems, Bool.and_true, hasWritableTypes]

theorem all_isAccepted_layoutEdits (flushed : Bool) :
    (layoutEdits table entity).all (Edit.isAccepted flushed) = true := by
  have hblank : Edit.isAccepted flushed blankLine = true := rfl
  simp only [layoutEdits, List.all_append,
    all_bodyEdits table hblank rfl (fun _ _ => rfl) rfl, all_uniqueEdits table hblank fun _ => rfl,
    all_foreignIndexEdits table hblank fun _ => rfl, Bool.and_true]

/-- References can be made unless foreign keys are to be put off after they have been written. -/
theorem all_isAccepted_of_isOfReference (flushed : Bool) {edits : List Edit}
    (h : edits.all Edit.isOfReference = true) :
    edits.all (Edit.isAccepted flushed) = true ↔
      (flushed = true → edits.filterMap Edit.key? = []) := by
  cases flushed with
  | false =>
      refine iff_of_true (List.all_eq_true.2 fun edit hedit => ?_) (by simp)
      rw [Edit.isAccepted_false]
      exact Edit.isWritable_of_isOfReference (List.all_eq_true.1 h edit hedit)
  | true =>
      rw [List.all_eq_true, List.filterMap_eq_nil_iff]
      simp only [forall_const]
      refine forall₂_congr fun edit hedit => ?_
      rcases Edit.eq_of_isOfReference (List.all_eq_true.1 h edit hedit) with
        ⟨event, rfl, -⟩ | ⟨key, rfl⟩
      · exact iff_of_true rfl rfl
      · exact iff_of_false (by simp [Edit.isAccepted, Edit.fault?]) (by simp [Edit.key?])

end Edits

section Runs

theorem takeWhile_append_of_all_eq_false {α : Type} {p : α → Bool} {l l' : List α}
    (h : l.all p = false) : (l ++ l').takeWhile p = l.takeWhile p := by
  rw [List.takeWhile_append, if_neg]
  intro hlength
  have hself := (List.takeWhile_prefix p).eq_of_length hlength
  rw [List.all_eq_true.2 (List.takeWhile_eq_self_iff.1 hself)] at h
  cases h

/-- The lines that changes add to the creating script up to the first that cannot be made. -/
def writtenItems (flushed : Bool) (edits : List Edit) : List Sql.ScriptItem :=
  (edits.takeWhile (Edit.isAccepted flushed)).filterMap Edit.createItem?

/-- What comes after changes that can all be made is written after their lines. -/
theorem writtenItems_append {flushed : Bool} {first : List Edit}
    (h : first.all (Edit.isAccepted flushed) = true) (rest : List Edit) :
    writtenItems flushed (first ++ rest) =
      first.filterMap Edit.createItem? ++ writtenItems flushed rest := by
  rw [writtenItems, List.takeWhile_append_of_pos (List.all_eq_true.1 h), List.filterMap_append]
  rfl

theorem Group.items_run (group : Group) (edits : List Edit) :
    (group.run edits).group.create.items =
      group.create.items ++
        (writtenItems group.flushed edits).map (·.below group.create.level) := by
  rw [run_eq_grown]
  rfl

theorem writtenItems_isPrefix (flushed : Bool) (edits : List Edit) :
    writtenItems flushed edits <+: edits.filterMap Edit.createItem? :=
  (List.takeWhile_prefix _).filterMap _

/-- Changes can all be made exactly if a run of them has no fault. -/
theorem Group.fault_run_eq_none_iff (group : Group) (edits : List Edit) :
    (group.run edits).fault = none ↔ edits.all (Edit.isAccepted group.flushed) = true := by
  rw [run_eq_grown, List.all_eq_true]
  simp only [List.findSome?_eq_none_iff, Edit.isAccepted, Option.isNone_iff_eq_none]

theorem Group.writtenItems_of_fault_eq_none {group : Group} {edits : List Edit}
    (h : (group.run edits).fault = none) :
    writtenItems group.flushed edits = edits.filterMap Edit.createItem? := by
  have haccepted := (group.fault_run_eq_none_iff edits).1 h
  rw [writtenItems, List.takeWhile_eq_self_iff.2 (List.all_eq_true.1 haccepted)]

variable (options : Options) (index : Index) (schema tablePrefix : String) (entity : Entity)

/-- Whether the writing comes to the table of an entity: the labels of its types have literals,
and no foreign key is to be put off after those of the group have been written. -/
def ComesToTable (table : String) (flushed : Bool) : Prop :=
  hasWritableTypes table entity = true ∧
    (flushed = true → options.foreignKeys = true →
      entityForeignKeys index schema tablePrefix entity = [])

variable {tableName : String}
  (h : Naming.prefixedTableName tablePrefix entity.toElement = .ok tableName)

include h

theorem all_isAccepted_referenceEdits_iff (table : String) (flushed : Bool)
    (htable : schema ++ "." ++ tableName = table) :
    (referenceEdits options index table tableName (tableColumns table entity)).all
        (Edit.isAccepted flushed) = true ↔
      (flushed = true → options.foreignKeys = true →
        entityForeignKeys index schema tablePrefix entity = []) := by
  rw [all_isAccepted_of_isOfReference flushed
    (referenceEdits_isOfReference options index table tableName (tableColumns table entity)),
    entityForeignKeys, h]
  refine imp_congr_right fun _ => ?_
  cases hon : options.foreignKeys with
  | false =>
      rw [referenceEdits_of_off hon]
      exact iff_of_true rfl fun hfalse => absurd hfalse Bool.false_ne_true
  | true =>
      rw [referenceEdits_keys hon, ← htable]
      simp

/-- The lines of an entity: its types, and what comes after its references. -/
theorem createItems_entityEdits (table : String) (htable : schema ++ "." ++ tableName = table) :
    (entityEdits options index schema tablePrefix entity).filterMap Edit.createItem? =
      typeItems (enumsOf table entity) ++
        (closingEdits options table tableName entity).filterMap Edit.createItem? := by
  rw [entityEdits_of_ok _ _ _ _ _ h, htable, List.filterMap_append, List.filterMap_append,
    createItems_openingEdits, createItems_referenceEdits, List.nil_append]

/-- If the writing comes to the table, it goes on after the types with what comes after the
references. -/
theorem writtenItems_of_comesToTable (table : String) (flushed : Bool)
    (htable : schema ++ "." ++ tableName = table)
    (hcomes : ComesToTable options index schema tablePrefix entity table flushed) :
    writtenItems flushed (entityEdits options index schema tablePrefix entity) =
      typeItems (enumsOf table entity) ++
        writtenItems flushed (closingEdits options table tableName entity) := by
  have hopening := all_isAccepted_openingEdits table entity flushed
  rw [hcomes.1] at hopening
  have hreferences := (all_isAccepted_referenceEdits_iff options index schema tablePrefix entity h
    table flushed htable).2 hcomes.2
  rw [entityEdits_of_ok _ _ _ _ _ h, htable, writtenItems_append hopening,
    writtenItems_append hreferences, createItems_openingEdits, createItems_referenceEdits,
    List.nil_append]

/-- If the writing does not come to the table, it ends among the types or after them. -/
theorem writtenItems_of_not_comesToTable (table : String) (flushed : Bool)
    (htable : schema ++ "." ++ tableName = table)
    (hstops : ¬ ComesToTable options index schema tablePrefix entity table flushed) :
    writtenItems flushed (entityEdits options index schema tablePrefix entity) <+:
      typeItems (enumsOf table entity) := by
  have hreferences := all_isAccepted_referenceEdits_iff options index schema tablePrefix entity h
    table flushed htable
  have hsilent := createItems_referenceEdits options index table tableName
    (tableColumns table entity)
  have htypes := createItems_openingEdits entity table
  have hopening := all_isAccepted_openingEdits table entity flushed
  rw [entityEdits_of_ok _ _ _ _ _ h, htable, writtenItems]
  generalize referenceEdits options index table tableName (tableColumns table entity) = references
    at hreferences hsilent
  cases hlabels : hasWritableTypes table entity with
  | false =>
      rw [hlabels] at hopening
      rw [takeWhile_append_of_all_eq_false hopening, ← htypes]
      exact (List.takeWhile_prefix _).filterMap _
  | true =>
      -- the types are written, and the first foreign key is one too many
      rw [hlabels] at hopening
      have hrefused : references.all (Edit.isAccepted flushed) = false :=
        Bool.eq_false_iff.2 fun hall => hstops ⟨hlabels, hreferences.1 hall⟩
      have hnone : (references.takeWhile (Edit.isAccepted flushed)).filterMap
          Edit.createItem? = [] :=
        List.prefix_nil.1 (hsilent ▸ (List.takeWhile_prefix _).filterMap _)
      rw [List.takeWhile_append_of_pos (List.all_eq_true.1 hopening),
        takeWhile_append_of_all_eq_false hrefused, List.filterMap_append, htypes]
      simpa only [hnone, List.append_nil] using List.prefix_rfl

/-- The lines that are written if the writing comes to the table, and those that are written if it
does not. -/
theorem writtenItems_entityEdits (table : String) (flushed : Bool)
    (htable : schema ++ "." ++ tableName = table) :
    (ComesToTable options index schema tablePrefix entity table flushed →
      typeItems (enumsOf table entity) ++ (layoutEdits table entity).filterMap Edit.createItem? <+:
        writtenItems flushed (entityEdits options index schema tablePrefix entity)) ∧
    (¬ ComesToTable options index schema tablePrefix entity table flushed →
      writtenItems flushed (entityEdits options index schema tablePrefix entity) <+:
        typeItems (enumsOf table entity)) := by
  refine ⟨fun hcomes => ?_, writtenItems_of_not_comesToTable options index schema tablePrefix
    entity h table flushed htable⟩
  rw [writtenItems_of_comesToTable options index schema tablePrefix entity h table flushed htable
    hcomes, closingEdits_eq_layout, writtenItems_append (all_isAccepted_layoutEdits ..),
    ← List.append_assoc]
  exact List.prefix_append _ _

omit h

/-- An entity with a column of each class, a column without a name and one with a type of its
own. -/
def badgeEntity : Entity :=
  { name := "Badge"
    columns := [
      { name := "id", type := "INTEGER", length := some (.number (-1)), primaryKey := true },
      { name := "code", nullable := false, unique := true, foreignKey := true },
      { name := "owner_id", type := "INTEGER", foreignKey := true },
      { name := "worn-by" },
      { name := "state", type := "enum",
        tags := [.ofString "enum" "new,worn", .ofString "default" "'new'"] }] }

end Runs

end Table
end ErdSql
