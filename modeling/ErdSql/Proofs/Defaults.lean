import ErdSql.Proofs.TableScripts
import ErdSql.Proofs.TypeNames

/-!
# Defaults of columns

The line of a column ends in its default, unless the column numbers itself.  Such columns are told
by a mark in the spelling of their type.  A type that is created for a column is spelled by its
schema, its table and its name, so the mark can come from any of these, and then a default is left
out although the column does not number itself.  This is the only way in which one is lost.
-/

namespace ErdSql

namespace Text

/-- A separator that the part does not hold ends what the part can begin. -/
theorem isPrefixOf_append_cons {part : List Char} {sep : Char} (h : sep ∉ part)
    (cs ds : List Char) : part.isPrefixOf (cs ++ sep :: ds) = part.isPrefixOf cs := by
  induction part generalizing cs with
  | nil => rfl
  | cons c part ih =>
      obtain ⟨hne, hpart⟩ := not_or.1 (mt List.mem_cons.2 h)
      cases cs with
      | nil => simp [List.isPrefixOf, Ne.symm hne]
      | cons d cs => simp only [List.cons_append, List.isPrefixOf, ih hpart]

/-- A part without the separator is on one of its sides. -/
theorem containsChars_append_cons {part : List Char} {sep : Char} (h : sep ∉ part)
    (cs ds : List Char) :
    containsChars part (cs ++ sep :: ds) = (containsChars part cs || containsChars part ds) := by
  induction cs with
  | nil =>
      have hfront := isPrefixOf_append_cons h [] ds
      rw [List.nil_append] at hfront ⊢
      simp only [containsChars, hfront]
      cases part <;> rfl
  | cons c cs ih =>
      have hfront := isPrefixOf_append_cons h (c :: cs) ds
      rw [List.cons_append] at hfront ⊢
      simp only [containsChars, hfront, ih, Bool.or_assoc]

theorem length_le_of_containsChars {part cs : List Char} (h : containsChars part cs = true) :
    part.length ≤ cs.length := by
  induction cs with
  | nil => simp [List.isEmpty_iff.1 h]
  | cons c cs ih =>
      rcases Bool.or_eq_true_iff.1 h with hfront | hrest
      · exact (List.isPrefixOf_iff_prefix.1 hfront).length_le
      · exact (ih hrest).trans (Nat.le_succ _)

theorem lowerChar_ne_nil (c : Char) : lowerChar c ≠ [] := by
  unfold lowerChar
  split
  · exact List.cons_ne_nil _ _
  · split
    · exact List.cons_ne_nil _ _
    · split <;> exact List.cons_ne_nil _ _

/-- No character is lost in lower case. -/
theorem length_le_length_lowerChars (letterBefore : Bool) (cs : List Char) :
    cs.length ≤ (lowerChars letterBefore cs).length := by
  induction cs generalizing letterBefore with
  | nil => exact Nat.zero_le _
  | cons c cs ih =>
      have hone := List.length_pos_iff.2 (lowerChar_ne_nil c)
      have hrest := ih (if isCaseIgnorable c then letterBefore else isCased c)
      by_cases hsigma : c = 'Σ'
      · simp only [lowerChars, if_pos hsigma, List.length_cons]
        omega
      · simp only [lowerChars, if_neg hsigma, List.length_append, List.length_cons]
        omega

end Text

namespace Sql

/-- The mark is in a name that is joined of three names exactly if it is in one of them. -/
theorem isAutoIncrementType_join (schema table column : String) :
    isAutoIncrementType (schema ++ "." ++ table ++ "_" ++ column) =
      (isAutoIncrementType schema || isAutoIncrementType table || isAutoIncrementType column) := by
  have hjoin : (schema ++ "." ++ table ++ "_" ++ column).toList =
      schema.toList ++ '.' :: (table.toList ++ '_' :: column.toList) := by
    simp [String.toList_append]
  have hdot : '.' ∉ serialMark.toList := by decide
  have hunderscore : '_' ∉ serialMark.toList := by decide
  simp only [isAutoIncrementType, Text.contains, hjoin, Text.containsChars_append_cons hdot,
    Text.containsChars_append_cons hunderscore, Bool.or_assoc]

/-- The abstract type of columns whose values are listed is too short for the mark. -/
theorem isAutoIncrementType_of_lower_eq_enum {type : String} (h : Text.lower type = "enum") :
    isAutoIncrementType type = false := by
  refine Bool.eq_false_iff.2 fun hmark => ?_
  -- the type is no longer than its lower-case form, and that is shorter than the mark
  have hlong := Text.length_le_of_containsChars hmark
  have hshort := Text.length_le_length_lowerChars false type.toList
  rw [← String.toList_inj, Text.lower, String.toList_ofList] at h
  rw [h] at hshort
  exact absurd (hlong.trans hshort) (by decide)

/-- The entry of a column that the line gives, as text and without the comma after it. -/
def Line.columnText? : Line → Option String
  | .statement (.tableEntry (.column name sqlType notNull default) _) =>
      some (TableEntry.column name sqlType notNull default).text
  | _ => none

/-- The entries of columns in the lines of a script. -/
def Script.columnTexts (script : Script) : List String :=
  script.items.filterMap fun item => item.line.columnText?

end Sql

namespace Table

theorem readsColumns_columnText? : ReadsColumns Sql.Line.columnText? where
  eq_none := fun line h => by
    unfold Sql.Line.columnText?
    split
    · cases h
    · rfl
  last := fun entry _ => by cases entry <;> rfl

theorem texts_tableColumns (table : String) (entity : Entity) :
    (tableColumns table entity).filterMap
        (fun c => (Sql.Line.statement (.tableEntry (columnEntry c) true)).columnText?) =
      columnTexts table entity := by
  rw [tableColumns_eq, columnTexts, List.filterMap_filterMap]
  refine List.filterMap_congr fun column _ => ?_
  cases (Naming.columnName column.toElement).toOption with
  | none => rfl
  | some name => exact congrArg some (text_columnEntry table name column)

section Runs

variable (options : Options) (index : Index) (schema tablePrefix : String) (entity : Entity)

/-- A run that comes to the table writes the lines of all columns that have a name, and a run that
does not come to it writes no line of a column. -/
theorem columnTexts_run {tableName : String}
    (h : Naming.prefixedTableName tablePrefix entity.toElement = .ok tableName) (group : Group) :
    let table := schema ++ "." ++ tableName
    let run := group.run (entityEdits options index schema tablePrefix entity)
    (ComesToTable options index schema tablePrefix entity table group.flushed →
      run.group.create.columnTexts = group.create.columnTexts ++ columnTexts table entity) ∧
    (¬ ComesToTable options index schema tablePrefix entity table group.flushed →
      run.group.create.columnTexts = group.create.columnTexts) := by
  intro table run
  have hreads := readsColumns_columnText?
  obtain ⟨hcomes, hstops⟩ := writtenItems_entityEdits options index schema tablePrefix entity h
    table group.flushed rfl
  have htypes := hreads.filterMap_typeItems (enumsOf table entity)
  have hrun : run.group.create.columnTexts = group.create.columnTexts ++
      (writtenItems group.flushed (entityEdits options index schema tablePrefix entity)).filterMap
        fun item => item.line.columnText? := by
    rw [Sql.Script.columnTexts, Group.items_run, List.filterMap_append, List.filterMap_map]
    rfl
  rw [hrun]
  constructor
  · intro hreached
    have hall := hreads.filterMap_createItems options index schema tablePrefix entity h
    have hbody : columnTexts table entity <+: (typeItems (enumsOf table entity) ++
        (layoutEdits table entity).filterMap Edit.createItem?).filterMap
          fun item => item.line.columnText? := by
      rw [List.filterMap_append, htypes, List.nil_append, layoutEdits, List.append_assoc,
        List.filterMap_append, createItems_bodyEdits, List.append_assoc, List.filterMap_append,
        hreads.filterMap_tableItems, texts_tableColumns]
      exact List.prefix_append _ _
    rw [texts_tableColumns] at hall
    have hupper := (writtenItems_isPrefix group.flushed
      (entityEdits options index schema tablePrefix entity)).filterMap
        fun item => item.line.columnText?
    rw [hall] at hupper
    -- what is written lies between the layout and all lines, and both of these read the same
    have hlower := hbody.trans ((hcomes hreached).filterMap _)
    rw [hlower.eq_of_length_le hupper.length_le]
  · intro hmissed
    have hupper := (hstops hmissed).filterMap fun item => item.line.columnText?
    rw [htypes] at hupper
    rw [List.prefix_nil.1 hupper, List.append_nil]

end Runs

section Columns

variable {table name : String} {column : Column}

/-- The clause of a column that has a default. -/
def defaultClause (column : Column) : String :=
  if column.tags.valueOf "default" = "" then "" else " DEFAULT " ++ column.tags.valueOf "default"

/-- The line of a column up to its default. -/
def columnFront (table name : String) (column : Column) : String :=
  name ++ " " ++ columnType table column ++
    if column.primaryKey || !column.nullable then " NOT NULL" else ""

theorem columnText_eq (table name : String) (column : Column) :
    columnText table name column = columnFront table name column ++
      if Sql.isAutoIncrementType (columnType table column) then "" else defaultClause column := by
  unfold columnText columnFront defaultClause effectiveDefault
  rw [sqlType_resolveColumn, ← columnType, default_resolveColumn]
  cases Sql.isAutoIncrementType (columnType table column) with
  | true => rfl
  | false => by_cases hvalue : column.tags.valueOf "default" = "" <;> simp [hvalue]

theorem columnType_of_ok (hname : Naming.columnName column.toElement = .ok name) :
    columnType table column =
      if hasOwnType column then typeName table name else Sql.dataType column := by
  unfold columnType enumOf? hasOwnType typeName
  rw [hname]
  by_cases h : Text.lower (Sql.dataType column) = "enum" ∧
      enumLabels (column.tags.valueOf "enum") ≠ []
  · simp [h]
  · simp [h]

/-- A column with a type of its own does not number itself. -/
theorem isAutoIncrementType_of_hasOwnType (h : hasOwnType column = true) :
    Sql.isAutoIncrementType (Sql.dataType column) = false :=
  Sql.isAutoIncrementType_of_lower_eq_enum (of_decide_eq_true h).1

/-- Whether the default of a column is left out: its type numbers itself or, if the type is one of
its own, a name in the spelling of the type has the mark of those that do. -/
def leavesOutDefault (schema tableName name : String) (column : Column) : Bool :=
  if hasOwnType column then
    Text.contains "serial" schema || Text.contains "serial" tableName || Text.contains "serial" name
  else
    Sql.isAutoIncrementType (Sql.dataType column)

theorem isAutoIncrementType_columnType (schema tableName : String)
    (hname : Naming.columnName column.toElement = .ok name) :
    Sql.isAutoIncrementType (columnType (schema ++ "." ++ tableName) column) =
      leavesOutDefault schema tableName name column := by
  rw [columnType_of_ok hname, leavesOutDefault]
  split
  · exact Sql.isAutoIncrementType_join schema tableName name
  · rfl

end Columns

section Defaults

variable (options : Options) (index : Index) (schema tablePrefix : String) (entity : Entity)

/-- The line of each column that has a name ends in the default of the column, unless the type of
the column numbers itself.  A default is lost beyond this exactly if a type is created for the
column and the schema, the table or the column has the mark of the types that number
themselves in its name. -/
theorem run_entityEdits_defaults {tableName : String}
    (h : Naming.prefixedTableName tablePrefix entity.toElement = .ok tableName) (group : Group) :
    let table := schema ++ "." ++ tableName
    let run := group.run (entityEdits options index schema tablePrefix entity)
    (ComesToTable options index schema tablePrefix entity table group.flushed →
      run.group.create.columnTexts = group.create.columnTexts ++ columnTexts table entity) ∧
    (¬ ComesToTable options index schema tablePrefix entity table group.flushed →
      run.group.create.columnTexts = group.create.columnTexts) ∧
    ∀ column ∈ entity.columns, ∀ name tag,
      Naming.columnName column.toElement = .ok name →
      column.tags.find? "default" = some tag → tag.value ≠ "" →
        columnText table name column = columnFront table name column ++
          (if leavesOutDefault schema tableName name column then "" else " DEFAULT " ++ tag.value) ∧
        (leavesOutDefault schema tableName name column =
            Sql.isAutoIncrementType (Sql.dataType column) ↔
          ¬ (hasOwnType column = true ∧ (Text.contains "serial" schema = true ∨
            Text.contains "serial" tableName = true ∨ Text.contains "serial" name = true))) := by
  intro table run
  obtain ⟨hcomes, hstops⟩ := columnTexts_run options index schema tablePrefix entity h group
  refine ⟨hcomes, hstops, fun column _ name tag hname htag hvalue => ⟨?_, ?_⟩⟩
  · have hclause : defaultClause column = " DEFAULT " ++ tag.value := by
      have hfirst : column.tags.valueOf "default" = tag.value := by rw [Tags.valueOf, htag]
      rw [defaultClause, hfirst, if_neg hvalue]
    rw [columnText_eq, isAutoIncrementType_columnType schema tableName hname, hclause]
  · cases hown : hasOwnType column with
    | false => simp [leavesOutDefault, hown]
    | true =>
        simp [leavesOutDefault, hown, isAutoIncrementType_of_hasOwnType hown, and_assoc]

/-- A column with a type of its own and a default. -/
def stateColumn : Column :=
  { name := "state", type := "enum",
    tags := [.ofString "enum" "new,sold", .ofString "default" "'new'"] }

/-- An entity with that column only. -/
def stateEntity (name : String) : Entity :=
  { name := name, columns := [stateColumn] }

/-- The name of its table decides on the default of the column, whose type does not number
itself. -/
theorem run_entityEdits_defaults_serialItem :
    ((Group.empty "    ").run
        (entityEdits {} ⟨[]⟩ "public" "" (stateEntity "Serial_Item"))).group.create.columnTexts =
      ["state public.serial_item_state"] ∧
    Sql.isAutoIncrementType (Sql.dataType stateColumn) = false ∧
    columnText "public.serial_item" "state" stateColumn =
      columnFront "public.serial_item" "state" stateColumn ∧
    columnText "public.item" "state" stateColumn =
      columnFront "public.item" "state" stateColumn ++ " DEFAULT 'new'" := by
  have hserial : Naming.prefixedTableName "" (stateEntity "Serial_Item").toElement =
      .ok "serial_item" := by decide +kernel
  have hitem : Naming.prefixedTableName "" (stateEntity "Item").toElement = .ok "item" := by
    decide +kernel
  have hname : Naming.columnName stateColumn.toElement = .ok "state" := by decide +kernel
  have htag : stateColumn.tags.find? "default" = some (.ofString "default" "'new'") := rfl
  have hreached : ComesToTable {} ⟨[]⟩ "public" "" (stateEntity "Serial_Item")
      "public.serial_item" false := ⟨by decide +kernel, nofun⟩
  have hlost : leavesOutDefault "public" "serial_item" "state" stateColumn = true := by
    decide +kernel
  have hkept : leavesOutDefault "public" "item" "state" stateColumn = false := by decide +kernel
  obtain ⟨hcomes, -, hlines⟩ := run_entityEdits_defaults {} ⟨[]⟩ "public" ""
    (stateEntity "Serial_Item") hserial (Group.empty "    ")
  obtain ⟨-, -, hlines'⟩ := run_entityEdits_defaults {} ⟨[]⟩ "public" "" (stateEntity "Item") hitem
    (Group.empty "    ")
  refine ⟨(hcomes hreached).trans (by decide +kernel), by decide +kernel, ?_, ?_⟩
  · have htext := (hlines stateColumn (List.mem_singleton.2 rfl) "state" _ hname htag
      (by decide)).1
    rwa [hlost, if_pos rfl, String.append_empty] at htext
  · have htext := (hlines' stateColumn (List.mem_singleton.2 rfl) "state" _ hname htag
      (by decide)).1
    rwa [hkept, if_neg Bool.false_ne_true] at htext

end Defaults

end Table
end ErdSql
