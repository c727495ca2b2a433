import ErdSql.Proofs.LiteralReading
import ErdSql.Proofs.QuotedTexts
import ErdSql.Proofs.UserIndexes
import ErdSql.Proofs.TrimmedLines

/-!
# Rows from documentation

Where the documentation of an entity is taken for rows, each of its lines that is not blank is
inserted, in order, and the table gets no comment.  A row gives values to the columns that have a
name.  The value of a column is the field at its place among all columns, those without a name
included, so what such a column leaves out does not move the other values.  Rows are written up to
the first one with a null character in a value; a run that is not stopped has written them all.
-/

namespace ErdSql

namespace Sql

def Line.isInsert : Line → Bool
  | .statement (.insert _ _ _) => true
  | _ => false

def Line.isTableComment : Line → Bool
  | .statement (.comment .table _ _) => true
  | _ => false

theorem Line.isQuoting_of_isTableComment {line : Line} (h : line.isTableComment = true) :
    line.isQuoting = true := by
  cases line with
  | blank => cases h
  | text text => cases h
  | statement statement => cases statement <;> first | rfl | cases h

/-- Only the missing value is written without quotes. -/
theorem literal_eq_null_iff (value : Option String) : literal value = "NULL" ↔ value = none := by
  cases value with
  | none => exact iff_of_true rfl rfl
  | some s =>
      refine iff_of_false (fun h => ?_) nofun
      have hquote : '\'' ∈ (literal (some s)).toList := by
        rw [literal, String.toList_ofList, literalChars]
        exact List.mem_append_right _ (List.mem_singleton_self _)
      rw [h] at hquote
      exact absurd hquote (by decide)

end Sql

namespace Table

/-- The lines of a documentation text that are not blank. -/
def documentationRows (documentation : String) : List String :=
  (Text.lines documentation).filter fun line => !Text.isAllBlank line

/-- The value that a line gives to the column at a position: the field at that position without
blanks around it.  A field that is missing or blank gives none. -/
def fieldValue (line : String) (position : Nat) : Option String :=
  match (Text.splitAt '|' line)[position]? with
  | none => none
  | some field => if Text.isAllBlank field then none else some (Text.trim field)

/-- The values that a line gives to the columns that have a name. -/
def rowValues (entity : Entity) (line : String) : List (Option String) :=
  entity.columns.zipIdx.filterMap fun (column, position) =>
    (Naming.columnName column.toElement).toOption.map fun _ => fieldValue line position

/-- The statement that inserts a line as a row. -/
def rowStatement (table : String) (entity : Entity) (line : String) : Sql.Statement :=
  .insert table (columnNames entity.columns) (rowValues entity line)

/-- A statement that inserts a line as a row: it lists the columns that have a name, in order, each
with the value that the line gives at its place among all columns. -/
def IsRowOf (table : String) (entity : Entity) (line : String) (row : Sql.Statement) : Prop :=
  ∃ values, row = .insert table (columnNames entity.columns) values ∧
    values.length = (columnNames entity.columns).length ∧
    ∀ position column name, entity.columns[position]? = some column →
      Naming.columnName column.toElement = .ok name →
        let place := (columnNames (entity.columns.take position)).length
        (columnNames entity.columns)[place]? = some name ∧
          values[place]? = some (fieldValue line position)

/-- Whether no value that a line gives to a column with a name holds a null character. -/
def hasWritableFields (entity : Entity) (line : String) : Bool :=
  entity.columns.zipIdx.all fun (column, position) =>
    match Naming.columnName column.toElement with
    | .error _ => true
    | .ok _ => (fieldValue line position).all Sql.hasLiteral

/-- Whether no comment on a column with a name holds a null character. -/
def hasWritableComments (entity : Entity) : Bool :=
  entity.columns.all fun column =>
    match Naming.columnName column.toElement with
    | .error _ => true
    | .ok _ => Sql.hasLiteral column.documentation

section Values

variable (table : String) (entity : Entity) (line : String)

/-- What is made of one item stands after what is made of those before it. -/
theorem getElem?_filterMap {α β : Type} {f : α → Option β} {l : List α} {i : Nat} {a : α} {b : β}
    (ha : l[i]? = some a) (hb : f a = some b) :
    (l.filterMap f)[((l.take i).filterMap f).length]? = some b := by
  obtain ⟨hi, rfl⟩ := List.getElem?_eq_some_iff.1 ha
  have hsplit : l.filterMap f = (l.take i).filterMap f ++ b :: (l.drop (i + 1)).filterMap f := by
    rw [← List.filterMap_cons_some hb, ← List.drop_eq_getElem_cons hi, ← List.filterMap_append,
      List.take_append_drop]
  rw [hsplit, List.getElem?_append_right le_rfl, Nat.sub_self]
  rfl

theorem take_zipIdx {α : Type} (l : List α) (start n : Nat) :
    (l.zipIdx start).take n = (l.take n).zipIdx start := by
  refine List.ext_getElem? fun i => ?_
  rw [List.getElem?_take, List.getElem?_zipIdx, List.getElem?_zipIdx, List.getElem?_take]
  split <;> rfl

/-- The columns that have a name, each with its name and its value. -/
def rowAssignments (columns : List Column) (start : Nat) : List (String × Option String) :=
  (columns.zipIdx start).filterMap fun (column, position) =>
    (Naming.columnName column.toElement).toOption.map fun name => (name, fieldValue line position)

theorem map_fst_rowAssignments (columns : List Column) (start : Nat) :
    (rowAssignments line columns start).map (·.1) = columnNames columns := by
  unfold rowAssignments columnNames
  induction columns generalizing start with
  | nil => rfl
  | cons column columns ih =>
      simp only [List.zipIdx_cons, List.filterMap_cons]
      cases (Naming.columnName column.toElement).toOption with
      | none => exact ih _
      | some name => exact congrArg (name :: ·) (ih _)

theorem map_snd_rowAssignments (columns : List Column) (start : Nat) :
    (rowAssignments line columns start).map (·.2) =
      (columns.zipIdx start).filterMap fun (column, position) =>
        (Naming.columnName column.toElement).toOption.map fun _ => fieldValue line position := by
  rw [rowAssignments, List.map_filterMap]
  refine List.filterMap_congr fun entry _ => ?_
  rw [Option.map_map]
  rfl

theorem length_filterMap_zipIdx (columns : List Column) (start : Nat) :
    ((columns.zipIdx start).filterMap fun (column, position) =>
        (Naming.columnName column.toElement).toOption.map fun _ => fieldValue line position).length =
      (columnNames columns).length := by
  rw [← map_snd_rowAssignments, List.length_map, ← map_fst_rowAssignments line columns start,
    List.length_map]

theorem isRowOf_rowStatement : IsRowOf table entity line (rowStatement table entity line) := by
  refine ⟨_, rfl, length_filterMap_zipIdx line entity.columns 0, ?_⟩
  intro position column name hcolumn hname place
  constructor
  · exact getElem?_filterMap hcolumn (by rw [hname]; rfl)
  · have hplace : entity.columns.zipIdx[position]? = some (column, position) := by
      rw [List.getElem?_zipIdx, hcolumn, Option.map_some, Nat.zero_add]
    have hvalue := getElem?_filterMap (f := fun entry : Column × Nat =>
        (Naming.columnName entry.1.toElement).toOption.map fun _ => fieldValue line entry.2)
      (b := fieldValue line position) hplace (by simp only [hname]; rfl)
    rwa [take_zipIdx, length_filterMap_zipIdx] at hvalue

theorem isWritable_rowStatement :
    (rowStatement table entity line).isWritable = hasWritableFields entity line := by
  change ((rowValues entity line).filterMap id).all Sql.hasLiteral = _
  unfold rowValues hasWritableFields
  induction entity.columns.zipIdx with
  | nil => rfl
  | cons entry entries ih =>
      simp only [List.filterMap_cons, List.all_cons, ← ih]
      cases Naming.columnName entry.1.toElement with
      | error fault => simp [Except.toOption]
      | ok name => cases fieldValue line entry.2 <;> simp [Except.toOption]

/-- A column gets no value exactly if its field is missing or blank. -/
theorem fieldValue_eq_none_iff (position : Nat) :
    fieldValue line position = none ↔
      ∀ field, (Text.splitAt '|' line)[position]? = some field → Text.isAllBlank field = true := by
  unfold fieldValue
  cases (Text.splitAt '|' line)[position]? with
  | none => simp
  | some field => simp

end Values

section Rows

/-- The fields of a line without the blanks around them. -/
def trimmedFields (line : String) : List String :=
  (Text.splitAt '|' line).map Text.trim

theorem trimmedFields_eq (line : String) :
    trimmedFields line = (Text.fieldChars line.toList).map String.ofList := by
  rw [trimmedFields, Text.splitAt, Text.splitAtAny, Text.fieldChars, List.map_map, List.map_map]
  refine List.map_congr_left fun piece _ => ?_
  rw [Function.comp_apply, Function.comp_apply, Text.trim, String.toList_ofList]

theorem filter_map_ofList (lines : List (List Char)) :
    (lines.map String.ofList).filter (fun line => !Text.isAllBlank line) =
      (lines.filter fun line => !line.all Text.isBlank).map String.ofList := by
  rw [List.filter_map]
  refine congrArg _ (List.filter_congr fun line _ => ?_)
  rw [Function.comp_apply, Text.isAllBlank, String.toList_ofList]

/-- The rows have the fields of the lines that are not blank. -/
theorem trimmedFields_seedRows (documentation : String) :
    (seedRows documentation).map trimmedFields =
      (documentationRows documentation).map trimmedFields := by
  have hfields : ∀ lines : List (List Char), (lines.map String.ofList).map trimmedFields =
      (lines.map Text.fieldChars).map (List.map String.ofList) := by
    intro lines
    rw [List.map_map, List.map_map]
    refine List.map_congr_left fun line _ => ?_
    rw [Function.comp_apply, trimmedFields_eq, String.toList_ofList]
    rfl
  have hlines := Text.fields_filledLines_trimChars documentation.toList
  rw [seedRows, documentationRows, Text.lines, Text.lines, filter_map_ofList, filter_map_ofList,
    hfields, hfields, Text.trim, String.toList_ofList]
  exact congrArg _ hlines

/-- A column gets the field that is left of its blanks, unless nothing is left. -/
theorem fieldValue_eq (line : String) (position : Nat) :
    fieldValue line position = ((trimmedFields line)[position]?).filter (· ≠ "") := by
  unfold fieldValue trimmedFields
  rw [List.getElem?_map]
  cases (Text.splitAt '|' line)[position]? with
  | none => rfl
  | some field =>
      by_cases hblank : Text.isAllBlank field = true
      · simp [hblank, Text.trim_eq_empty_iff.2 hblank, Option.filter]
      · have hfilled : Text.trim field ≠ "" := mt Text.trim_eq_empty_iff.1 hblank
        simp [hblank, hfilled, Option.filter]

theorem seedValue_eq (line : String) (position : Nat) :
    seedValue (Text.splitAt '|' line) position = fieldValue line position := by
  rw [fieldValue_eq, trimmedFields, List.getElem?_map]
  unfold seedValue
  cases (Text.splitAt '|' line)[position]? with
  | none => rfl
  | some field => by_cases htrim : Text.trim field = "" <;> simp [htrim, Option.filter]

theorem seedStatement_eq (table : String) (entity : Entity) (row : String) :
    seedStatement table (entity.columns.map (resolveColumn table)) row =
      rowStatement table entity row := by
  have hnames := map_fst_rowAssignments row entity.columns 0
  have hvalues := map_snd_rowAssignments row entity.columns 0
  unfold rowAssignments at hnames hvalues
  simp only [seedStatement, seedAssignments_map_resolveColumn, seedValue_eq]
  rw [hnames, hvalues]
  rfl

/-- The rows of a table are inserted line by line. -/
theorem map_seedStatement (table : String) (entity : Entity) :
    (seedRows entity.documentation).map
        (seedStatement table (entity.columns.map (resolveColumn table))) =
      (documentationRows entity.documentation).map (rowStatement table entity) := by
  have hfactor : ∀ lines : List String, lines.map (rowStatement table entity) =
      (lines.map trimmedFields).map fun fields =>
        .insert table (columnNames entity.columns)
          (entity.columns.zipIdx.filterMap fun (column, position) =>
            (Naming.columnName column.toElement).toOption.map fun _ =>
              (fields[position]?).filter (· ≠ "")) := by
    intro lines
    rw [List.map_map]
    refine List.map_congr_left fun line _ => ?_
    simp only [rowStatement, rowValues, fieldValue_eq]
    rfl
  rw [List.map_congr_left fun row _ => seedStatement_eq table entity row, hfactor, hfactor,
    trimmedFields_seedRows]

end Rows

section Edits

variable (options : Options) (table tableName : String) (entity : Entity)

/-- The line that inserts a row. -/
def rowItem (line : String) : Sql.ScriptItem :=
  ⟨0, .statement (rowStatement table entity line)⟩

/-- The lines that insert rows. -/
def insertItems (items : List Sql.ScriptItem) : List Sql.ScriptItem :=
  items.filter (·.line.isInsert)

/-- The changes between the references of a table and its rows. -/
def rowlessEdits : List Edit :=
  layoutEdits table entity ++ userIndexEdits table (tableColumns table entity) ++
    commentEdits .seedInserts table entity (tableColumns table entity) ++
    triggerEdits options entity table tableName

/-- The changes that insert the rows of a table and count it. -/
def rowEdits : List Edit :=
  let lines := documentationRows entity.documentation
  (lines.map fun line => createStatement (rowStatement table entity line)) ++
    ((if lines = [] then [] else [blankLine]) ++ [.complete table])

theorem seedEdits_eq :
    seedEdits table entity (entity.columns.map (resolveColumn table)) ++ [.complete table] =
      rowEdits table entity := by
  have hrows := congrArg (List.map createStatement) (map_seedStatement table entity)
  have hlength := congrArg List.length (map_seedStatement table entity)
  simp only [List.length_map] at hlength
  have hempty : (seedRows entity.documentation).isEmpty =
      decide (documentationRows entity.documentation = []) := by
    rw [Bool.eq_iff_iff, List.isEmpty_iff, decide_eq_true_eq, ← List.length_eq_zero_iff, hlength,
      List.length_eq_zero_iff]
  rw [List.map_map, List.map_map] at hrows
  simp only [seedEdits, rowEdits, hempty, decide_eq_true_eq, ← List.append_assoc]
  refine congrArg (· ++ [_]) ?_
  split
  · rename_i hnone
    rw [hnone]
    rfl
  · exact congrArg (· ++ [blankLine]) hrows

theorem closingEdits_eq_rows (hmode : documentationMode options entity = .seedInserts) :
    closingEdits options table tableName entity =
      rowlessEdits options table tableName entity ++ rowEdits table entity := by
  rw [← seedEdits_eq, closingEdits_eq_layout]
  simp only [remainingEdits, rowlessEdits, hmode, if_true, List.append_assoc]

/-- Before the rows only a comment on a column can keep the changes from being made. -/
theorem all_isAccepted_rowlessEdits (flushed : Bool) :
    (rowlessEdits options table tableName entity).all (Edit.isAccepted flushed) =
      hasWritableComments entity := by
  have htriggers := all_triggerEdits table (p := Edit.isAccepted flushed) rfl (fun _ => rfl)
    (fun _ _ => rfl) (fun _ => rfl) options entity tableName
  have hcomments : (commentEdits .seedInserts table entity (tableColumns table entity)).all
      (Edit.isAccepted flushed) = hasWritableComments entity := by
    have hlast : ∀ none : Bool, (if none then [] else [blankLine]).all
        (Edit.isAccepted flushed) = true := by
      intro none
      cases none <;> rfl
    simp only [commentEdits, List.all_append, hlast, Bool.and_true, hasWritableComments,
      tableColumns_eq, List.filterMap_filterMap, List.all_filterMap]
    refine congrArg (entity.columns.all ·) (funext fun column => ?_)
    cases Naming.columnName column.toElement with
    | error fault => rfl
    | ok name =>
        -- a column without documentation gets no comment, and the empty text has a literal
        simp only [Except.toOption, Option.map_some, Option.bind_some, column_resolveColumn]
        by_cases hempty : column.documentation = ""
        · simp only [hempty, if_true]
          rfl
        · simp only [hempty, if_false]
          exact (Edit.isAccepted_of_isPlain flushed rfl).trans (Bool.and_true _)
  simp only [rowlessEdits, List.all_append, all_isAccepted_layoutEdits,
    all_isAccepted_userIndexEdits, htriggers, hcomments, Bool.true_and, Bool.and_true]

/-- Whether the change adds no line that inserts a row. -/
def Edit.isRowless (edit : Edit) : Bool :=
  match edit.createItem? with
  | some item => !item.line.isInsert
  | none => true

theorem insertItems_of_all_isRowless {edits : List Edit} (h : edits.all Edit.isRowless = true) :
    insertItems (edits.filterMap Edit.createItem?) = [] := by
  refine List.filter_eq_nil_iff.2 fun item hitem => ?_
  obtain ⟨edit, hedit, hcreate⟩ := List.mem_filterMap.1 hitem
  have hrowless := List.all_eq_true.1 h edit hedit
  rw [Edit.isRowless, hcreate] at hrowless
  simpa using hrowless

theorem insertItems_writtenItems {edits : List Edit} (h : edits.all Edit.isRowless = true)
    (flushed : Bool) : insertItems (writtenItems flushed edits) = [] :=
  insertItems_of_all_isRowless <| List.all_eq_true.2 fun edit hedit =>
    List.all_eq_true.1 h edit ((List.takeWhile_prefix _).subset hedit)

theorem all_isRowless_rowlessEdits :
    (rowlessEdits options table tableName entity).all Edit.isRowless = true := by
  have hblank : Edit.isRowless blankLine = true := rfl
  simp only [rowlessEdits, layoutEdits, List.all_append,
    all_bodyEdits table hblank rfl (fun _ _ => rfl) rfl, all_uniqueEdits table hblank fun _ => rfl,
    all_foreignIndexEdits table hblank fun _ => rfl,
    all_userIndexEdits table hblank (fun _ => rfl) fun _ => rfl,
    all_commentEdits table hblank fun _ _ _ => rfl,
    all_triggerEdits table hblank (fun _ => rfl) (fun _ _ => rfl) fun _ => rfl, Bool.and_true]

theorem isAccepted_rowStatement (flushed : Bool) (line : String) :
    (createStatement (rowStatement table entity line)).isAccepted flushed =
      hasWritableFields entity line :=
  (Edit.isAccepted_of_isPlain flushed rfl).trans (isWritable_rowStatement table entity line)

theorem all_isAccepted_rows (flushed : Bool) (lines : List String) :
    (lines.map fun line => createStatement (rowStatement table entity line)).all
        (Edit.isAccepted flushed) = lines.all (hasWritableFields entity) := by
  rw [List.all_map]
  exact congrArg _ (funext fun line => isAccepted_rowStatement table entity flushed line)

theorem all_isAccepted_rowEdits (flushed : Bool) :
    (rowEdits table entity).all (Edit.isAccepted flushed) =
      (documentationRows entity.documentation).all (hasWritableFields entity) := by
  have hend : ∀ lines : List String, ((if lines = [] then [] else [blankLine]) ++
      [Edit.complete table]).all (Edit.isAccepted flushed) = true := by
    intro lines
    split <;> rfl
  rw [rowEdits, List.all_append, all_isAccepted_rows, hend, Bool.and_true]

/-- Rows are inserted up to the first one that cannot be written. -/
theorem insertItems_rowEdits (flushed : Bool) :
    insertItems (writtenItems flushed (rowEdits table entity)) =
      ((documentationRows entity.documentation).takeWhile (hasWritableFields entity)).map
        (rowItem table entity) := by
  have hinserts : ∀ lines : List String, insertItems ((lines.map fun line =>
      createStatement (rowStatement table entity line)).filterMap Edit.createItem?) =
        lines.map (rowItem table entity) := by
    intro lines
    rw [List.filterMap_map, insertItems, List.filter_filterMap, ← List.filterMap_eq_map]
    rfl
  have haccepted : Edit.isAccepted flushed ∘ (fun line =>
      createStatement (rowStatement table entity line)) = hasWritableFields entity :=
    funext fun line => isAccepted_rowStatement table entity flushed line
  have hend : ∀ lines : List String, ((if lines = [] then [] else [blankLine]) ++
      [Edit.complete table]).all Edit.isRowless = true := by
    intro lines
    split <;> rfl
  have hrows := all_isAccepted_rows table entity flushed (documentationRows entity.documentation)
  cases hall : (documentationRows entity.documentation).all (hasWritableFields entity) with
  | true =>
      rw [hall] at hrows
      rw [rowEdits, writtenItems_append hrows, insertItems, List.filter_append,
        List.takeWhile_eq_self_iff.2 (List.all_eq_true.1 hall)]
      exact (congrArg₂ (· ++ ·) (hinserts _) (insertItems_writtenItems (hend _) flushed)).trans
        (List.append_nil _)
  | false =>
      rw [hall] at hrows
      rw [rowEdits, writtenItems, takeWhile_append_of_all_eq_false hrows, List.takeWhile_map,
        haccepted, hinserts]

end Edits

section Runs

variable (options : Options) (index : Index) (schema tablePrefix : String) (entity : Entity)

theorem insertItems_typeItems (types : List (String × List String)) :
    insertItems (typeItems types) = [] := by
  rw [insertItems, typeItems, List.filter_flatMap, List.flatMap_eq_nil_iff]
  exact fun new _ => rfl

variable {tableName : String}
  (h : Naming.prefixedTableName tablePrefix entity.toElement = .ok tableName)
  (hmode : documentationMode options entity = .seedInserts)

include h hmode

/-- A table whose documentation is taken for rows gets no comment. -/
theorem isTableComment_of_mem_createItems {item : Sql.ScriptItem}
    (hitem : item ∈ (entityEdits options index schema tablePrefix entity).filterMap
      Edit.createItem?) : item.line.isTableComment = false := by
  have hunquoted : ∀ edit : Edit, edit.isUnquoted = true →
      edit.createItem?.filter (·.line.isTableComment) = none := by
    intro edit hedit
    cases edit with
    | create depth line =>
        refine Option.filter_eq_none_iff.2 fun item hitem => ?_
        cases hitem
        exact fun hcomment => by
          simp [Edit.isUnquoted, Sql.Line.isQuoting_of_isTableComment hcomment] at hedit
    | _ => rfl
  have hquoting : (quotingStatements options (schema ++ "." ++ tableName) entity).filterMap
      (fun s => (createStatement s).createItem?.filter (·.line.isTableComment)) = [] := by
    refine List.filterMap_eq_nil_iff.2 fun statement hstatement => ?_
    simp only [quotingStatements, commentStatements, seedStatements, hmode, if_true, List.mem_append,
      List.mem_map, List.mem_filterMap] at hstatement
    rcases hstatement with (⟨new, -, rfl⟩ | hcomment | ⟨column, -, hcolumn⟩) | ⟨row, -, rfl⟩
    · rfl
    · cases hcomment
    · split at hcolumn
      · cases hcolumn
      · cases hcolumn
        rfl
    · rfl
  have hnone : (entityEdits options index schema tablePrefix entity).filterMap
      (fun edit => edit.createItem?.filter (·.line.isTableComment)) = [] := by
    rw [filterMap_entityEdits hunquoted h, hquoting]
    rfl
  obtain ⟨edit, hedit, hcreate⟩ := List.mem_filterMap.1 hitem
  have hfilter := List.filterMap_eq_nil_iff.1 hnone edit hedit
  rw [hcreate, Option.filter_eq_none_iff] at hfilter
  exact Bool.eq_false_iff.2 (hfilter item rfl)

theorem all_isAccepted_entityEdits_iff (table : String) (flushed : Bool)
    (htable : schema ++ "." ++ tableName = table) :
    (entityEdits options index schema tablePrefix entity).all (Edit.isAccepted flushed) = true ↔
      ComesToTable options index schema tablePrefix entity table flushed ∧
        hasWritableComments entity = true ∧
        ∀ line ∈ documentationRows entity.documentation, hasWritableFields entity line = true := by
  have hreferences := all_isAccepted_referenceEdits_iff options index schema tablePrefix entity h
    table flushed htable
  rw [entityEdits_of_ok _ _ _ _ _ h, htable, closingEdits_eq_rows options table tableName entity
    hmode, List.all_append, List.all_append, List.all_append, Bool.and_eq_true, Bool.and_eq_true,
    Bool.and_eq_true, all_isAccepted_openingEdits, hreferences, all_isAccepted_rowlessEdits,
    all_isAccepted_rowEdits, List.all_eq_true, ← and_assoc]
  rfl

/-- The rows that are inserted if the writing comes to them. -/
theorem insertItems_writtenItems_of_comes (table : String) (flushed : Bool)
    (htable : schema ++ "." ++ tableName = table)
    (hcomes : ComesToTable options index schema tablePrefix entity table flushed)
    (hcomments : hasWritableComments entity = true) :
    insertItems (writtenItems flushed (entityEdits options index schema tablePrefix entity)) =
      ((documentationRows entity.documentation).takeWhile (hasWritableFields entity)).map
        (rowItem table entity) := by
  have haccepted := all_isAccepted_rowlessEdits options table tableName entity flushed
  have hrowless := insertItems_of_all_isRowless
    (all_isRowless_rowlessEdits options table tableName entity)
  have hrows := insertItems_rowEdits table entity flushed
  have htypes := insertItems_typeItems (enumsOf table entity)
  rw [hcomments] at haccepted
  rw [writtenItems_of_comesToTable options index schema tablePrefix entity h table flushed htable
    hcomes, closingEdits_eq_rows options table tableName entity hmode,
    writtenItems_append haccepted]
  simp only [insertItems, List.filter_append] at *
  rw [htypes, hrowless, hrows, List.nil_append, List.nil_append]

/-- No row is inserted if the writing does not come to the rows. -/
theorem insertItems_writtenItems_of_stops (table : String) (flushed : Bool)
    (htable : schema ++ "." ++ tableName = table)
    (hstops : ¬ (ComesToTable options index schema tablePrefix entity table flushed ∧
      hasWritableComments entity = true)) :
    insertItems (writtenItems flushed (entityEdits options index schema tablePrefix entity)) =
      [] := by
  have htypes := insertItems_typeItems (enumsOf table entity)
  by_cases hcomes : ComesToTable options index schema tablePrefix entity table flushed
  · -- the types are written, and a comment before the rows cannot be
    have hrefused := all_isAccepted_rowlessEdits options table tableName entity flushed
    have hrowless := insertItems_writtenItems
      (all_isRowless_rowlessEdits options table tableName entity) flushed
    rw [Bool.eq_false_iff.2 fun hcomments => hstops ⟨hcomes, hcomments⟩] at hrefused
    rw [writtenItems_of_comesToTable options index schema tablePrefix entity h table flushed htable
      hcomes, closingEdits_eq_rows options table tableName entity hmode, writtenItems,
      takeWhile_append_of_all_eq_false hrefused]
    simp only [insertItems, List.filter_append, writtenItems] at *
    rw [htypes, hrowless, List.nil_append]
  · have hprefix := (writtenItems_of_not_comesToTable options index schema tablePrefix entity h
      table flushed htable hcomes).filter (·.line.isInsert)
    exact List.prefix_nil.1 (htypes ▸ hprefix)

/-- Generating an entity whose documentation is taken for rows inserts its lines that are not blank,
in order, and writes no comment on the table.  Each statement lists the columns that have a name
with the values that the line gives at their places among all columns; a value is `NULL` exactly if
its field is missing or blank.  A run inserts all of the lines unless it ends early; it does so
exactly if it does not come to the table, or a comment on a column or a value has a null character,
and then the lines before the first such value are inserted, or none if the run ends before the
rows. -/
theorem run_entityEdits_inserts (group : Group) :
    let table := schema ++ "." ++ tableName
    let lines := documentationRows entity.documentation
    let run := group.run (entityEdits options index schema tablePrefix entity)
    let comesToRows := ComesToTable options index schema tablePrefix entity table group.flushed ∧
      hasWritableComments entity = true
    ∃ written : List Sql.ScriptItem,
      run.group.create.items =
        group.create.items ++ written.map (·.below group.create.level) ∧
      (∀ item ∈ written, item.line.isTableComment = false) ∧
      (∀ line, IsRowOf table entity line (rowStatement table entity line)) ∧
      (∀ line position, Sql.literal (fieldValue line position) = "NULL" ↔
        ∀ field, (Text.splitAt '|' line)[position]? = some field → Text.isAllBlank field = true) ∧
      (run.fault = none → insertItems written = lines.map (rowItem table entity)) ∧
      (run.fault = none ↔ comesToRows ∧ ∀ line ∈ lines, hasWritableFields entity line = true) ∧
      (comesToRows → insertItems written =
        (lines.takeWhile (hasWritableFields entity)).map (rowItem table entity)) ∧
      (¬ comesToRows → insertItems written = []) := by
  intro table lines run comesToRows
  have hrows : comesToRows → insertItems
      (writtenItems group.flushed (entityEdits options index schema tablePrefix entity)) =
        (lines.takeWhile (hasWritableFields entity)).map (rowItem table entity) :=
    fun ⟨hcomes, hcomments⟩ => insertItems_writtenItems_of_comes options index schema tablePrefix
      entity h hmode table group.flushed rfl hcomes hcomments
  have hends : run.fault = none ↔
      comesToRows ∧ ∀ line ∈ lines, hasWritableFields entity line = true := by
    rw [Group.fault_run_eq_none_iff, all_isAccepted_entityEdits_iff options index schema tablePrefix
      entity h hmode table group.flushed rfl, and_assoc]
  refine ⟨_, group.items_run _, fun item hitem => ?_, isRowOf_rowStatement table entity,
    fun line position => ?_, fun hfault => ?_, hends, hrows,
    insertItems_writtenItems_of_stops options index schema tablePrefix entity h hmode table
      group.flushed rfl⟩
  · exact isTableComment_of_mem_createItems options index schema tablePrefix entity h hmode
      ((writtenItems_isPrefix _ _).subset hitem)
  · rw [Sql.literal_eq_null_iff, fieldValue_eq_none_iff]
  · obtain ⟨hcomes, hall⟩ := hends.1 hfault
    rw [hrows hcomes, List.takeWhile_eq_self_iff.2 hall]

omit h hmode

/-- An entity with a column without a name between two others, and rows of several lengths. -/
def seatEntity : Entity :=
  { name := "Seat"
    documentation := "\nA | 1 | 10\n \t\nB|2\n | x|  |12\n"
    tags := [{ name := "inserts", kind := .boolean, checked := true }]
    columns := [{ name := "row" }, { name := "seat-no" }, { name := "price" }] }

/-- The run for the entity inserts its three rows; the second field of a row is of no column. -/
theorem run_entityEdits_inserts_seat :
    ∃ written : List Sql.ScriptItem,
      ((Group.empty "    ").run
          (entityEdits {} ⟨[]⟩ "public" "" seatEntity)).group.create.items = written ∧
        insertItems written =
          (documentationRows seatEntity.documentation).map (rowItem "public.seat" seatEntity) ∧
        (insertItems written).map (·.line.shown) =
          ["INSERT INTO public.seat (row, price) VALUES ('A', '10');",
            "INSERT INTO public.seat (row, price) VALUES ('B', NULL);",
            "INSERT INTO public.seat (row, price) VALUES (NULL, NULL);"] := by
  have hname : Naming.prefixedTableName "" seatEntity.toElement = .ok "seat" := by decide +kernel
  obtain ⟨written, hitems, -, -, -, hall, hends, -, -⟩ :=
    run_entityEdits_inserts {} ⟨[]⟩ "public" "" seatEntity hname (by decide +kernel)
      (Group.empty "    ")
  have hcomes : ComesToTable {} ⟨[]⟩ "public" "" seatEntity "public.seat" false :=
    ⟨by decide +kernel, nofun⟩
  have hinserts := hall (hends.2 ⟨⟨hcomes, by decide +kernel⟩, by decide +kernel⟩)
  refine ⟨written, hitems.trans (Sql.ScriptItem.map_below_zero written), hinserts, ?_⟩
  rw [hinserts]
  decide +kernel

/-- An entity with a null character in its only row. -/
def memoEntity : Entity :=
  { name := "Memo"
    documentation := "a\x00b"
    tags := [{ name := "inserts", kind := .boolean, checked := true }]
    columns := [{ name := "body" }] }

/-- A text with a null character has no literal, so its row is not inserted.  Nor is a row where the
table has no name. -/
theorem insertItems_run_memo :
    (documentationMode {} memoEntity = .seedInserts ∧
      documentationRows memoEntity.documentation = [memoEntity.documentation] ∧
      let run := (Group.empty "    ").run (entityEdits {} ⟨[]⟩ "public" "" memoEntity)
      run.fault = some .nullCharacter ∧
        insertItems run.group.create.items ≠
          (documentationRows memoEntity.documentation).map (rowItem "public.memo" memoEntity)) ∧
    let misnamed : Entity := { memoEntity with name := "Memo-2", documentation := "a" }
    documentationMode {} misnamed = .seedInserts ∧
      documentationRows misnamed.documentation = ["a"] ∧
      insertItems ((Group.empty "    ").run
        (entityEdits {} ⟨[]⟩ "public" "" misnamed)).group.create.items = [] := by
  decide +kernel

end Runs

end Table
end ErdSql
