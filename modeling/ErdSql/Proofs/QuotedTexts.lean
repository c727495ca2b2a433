import ErdSql.Proofs.Mirrors
import ErdSql.Proofs.Quotations
import ErdSql.Proofs.QuotingStatements

/-!
# Texts of the model in scripts

What the script of an artifact quotes is known from the model: the labels of its types, the
comments on what it creates, and the rows of its tables.  All of it stands at the outermost level
of the script, in the order of the model.  The script that drops an artifact quotes nothing.
-/

namespace ErdSql

theorem Sql.Line.quotation?_of_not_isQuoting {line : Line} (h : line.isQuoting = false) :
    line.quotation? = none := by
  cases line with
  | blank => rfl
  | text s => rfl
  | statement statement => cases statement <;> first | rfl | cases h

namespace Table

/-- The values of a row by the columns that have a name.  A column without one takes up a field
all the same. -/
def rowFields (entity : Entity) (row : String) : List (String × Option String) :=
  entity.columns.zipIdx.filterMap fun (column, position) =>
    (Naming.columnName column.toElement).toOption.map fun name =>
      (name, seedValue (Text.splitAt '|' row) position)

/-- What the script of a table quotes: the labels of its types, the comments on the table and on
its columns, and its rows. -/
def quotations (options : Options) (table : String) (entity : Entity) : List Sql.Quotation :=
  let mode := documentationMode options entity
  (enumsOf table entity).map (fun (type, labels) => .ofLabels type labels) ++
    (if mode = .comment then [.ofComment .table table entity.documentation] else []) ++
    (entity.columns.filterMap fun column =>
      if column.documentation = "" then none
      else (Naming.columnName column.toElement).toOption.map fun name =>
        .ofComment .column (table ++ "." ++ name) column.documentation) ++
    if mode = .seedInserts then
      (seedRows entity.documentation).map fun row => .ofRow table (rowFields entity row)
    else []

section Statements

theorem seedAssignments_map_resolveColumn (table : String) (fields : List String)
    (columns : List Column) (position : Nat) :
    seedAssignments fields position (columns.map (resolveColumn table)) =
      (columns.zipIdx position).filterMap fun (column, position) =>
        (Naming.columnName column.toElement).toOption.map fun name =>
          (name, seedValue fields position) := by
  induction columns generalizing position with
  | nil => rfl
  | cons column columns ih =>
      rw [List.map_cons, List.zipIdx_cons, List.filterMap_cons, seedAssignments, ih]
      have hname : (resolveColumn table column).name =
          (Naming.columnName column.toElement).toOption := rfl
      simp only [hname]
      cases (Naming.columnName column.toElement).toOption <;> rfl

theorem quotation?_seedStatement (table : String) (entity : Entity) (row : String) :
    (seedStatement table (entity.columns.map (resolveColumn table)) row).quotation? =
      some (.ofRow table (rowFields entity row)) := by
  have hfields := seedAssignments_map_resolveColumn table (Text.splitAt '|' row) entity.columns 0
  simp only [seedStatement, hfields]
  rfl

theorem quotation?_columnComments (table : String) (entity : Entity) :
    ((tableColumns table entity).filterMap fun c =>
        if c.resolved.column.documentation = "" then none
        else some (Sql.Statement.comment .column (table ++ "." ++ c.name)
          c.resolved.column.documentation)).filterMap Sql.Statement.quotation? =
      entity.columns.filterMap fun column =>
        if column.documentation = "" then none
        else (Naming.columnName column.toElement).toOption.map fun name =>
          .ofComment .column (table ++ "." ++ name) column.documentation := by
  rw [tableColumns_eq, List.filterMap_filterMap, List.filterMap_filterMap]
  refine List.filterMap_congr fun column _ => ?_
  cases (Naming.columnName column.toElement).toOption with
  | none => simp
  | some name =>
      rw [Option.map_some, Option.bind_some, column_resolveColumn]
      split <;> rfl

theorem quotation?_quotingStatements (options : Options) (table : String) (entity : Entity) :
    (quotingStatements options table entity).filterMap Sql.Statement.quotation? =
      quotations options table entity := by
  have henums : ((enumsOf table entity).map fun (type, labels) =>
      Sql.Statement.createEnum type labels).filterMap Sql.Statement.quotation? =
        (enumsOf table entity).map fun (type, labels) => .ofLabels type labels := by
    rw [List.filterMap_map]
    exact congrFun List.filterMap_eq_map' _
  have hcomment : (if documentationMode options entity = .comment then
      [Sql.Statement.comment .table table entity.documentation] else []).filterMap
        Sql.Statement.quotation? =
      if documentationMode options entity = .comment then
        [.ofComment .table table entity.documentation] else [] := by
    split <;> rfl
  have hrows : (seedStatements (documentationMode options entity) table entity).filterMap
      Sql.Statement.quotation? =
        if documentationMode options entity = .seedInserts then
          (seedRows entity.documentation).map fun row => .ofRow table (rowFields entity row)
        else [] := by
    unfold seedStatements
    split
    · rw [List.filterMap_map]
      exact (List.filterMap_congr fun row _ => quotation?_seedStatement table entity row).trans
        (congrFun List.filterMap_eq_map' _)
    · rfl
  simp only [quotingStatements, quotations, commentStatements, List.filterMap_append, henums,
    hcomment, hrows, quotation?_columnComments, List.append_assoc]

end Statements

section Edits

/-- The quotation that the change adds to the creating script, with its level. -/
def Edit.quotation? (edit : Edit) : Option (Nat × Sql.Quotation) :=
  edit.createItem?.bind (·.quotation?)

theorem Edit.quotation?_of_isUnquoted {edit : Edit} (h : edit.isUnquoted = true) :
    edit.quotation? = none := by
  cases edit with
  | create depth line =>
      have hline : line.quotation? = none :=
        Sql.Line.quotation?_of_not_isQuoting (by simpa [isUnquoted] using h)
      simp [quotation?, createItem?, Sql.ScriptItem.quotation?, hline]
  | event e => rfl
  | drop line => rfl
  | defer key => rfl
  | complete table => rfl

theorem quotation?_entityEdits (options : Options) (index : Index) {schema tablePrefix : String}
    {entity : Entity} {tableName : String}
    (h : Naming.prefixedTableName tablePrefix entity.toElement = .ok tableName) :
    (entityEdits options index schema tablePrefix entity).filterMap Edit.quotation? =
      (quotations options (schema ++ "." ++ tableName) entity).map fun quotation =>
        (0, quotation) := by
  rw [filterMap_entityEdits (fun _ => Edit.quotation?_of_isUnquoted) h,
    ← quotation?_quotingStatements, List.map_filterMap]
  exact List.append_nil _

end Edits
end Table

namespace Generation

/-- The quotation of a comment, unless there is nothing to say. -/
def commentIfAny (target : Sql.CommentTarget) (name text : String) : List Sql.Quotation :=
  if text = "" then [] else [.ofComment target name text]

namespace Artifact

/-- What the script that creates the artifact quotes, in order. -/
def quotations (options : Options) : Artifact → List Sql.Quotation
  | database project =>
      commentIfAny .database (Naming.databaseName project.toElement).name project.documentation
  | routines _ _ => []
  | tables schema file =>
      (file.generated schema).flatMap fun (table, entity) =>
        Table.quotations options table entity
  | schemas project =>
      (newSchemas [] project.dataModels).flatMap fun (dataModel, schema) =>
        commentIfAny .schema schema dataModel.documentation

/-- The settings that are written as literals. -/
def settings (options : Options) : Artifact → List String
  | database _ => options.encoding :: (options.collation?.filter (· ≠ "")).toList
  | _ => []

/-- The texts that the script that creates the artifact writes as literals. -/
def literals (options : Options) (artifact : Artifact) : List String :=
  (artifact.quotations options).flatMap (fun quotation => quotation.values.filterMap id) ++
    artifact.settings options

section Items

variable (options : Options) (index : Index)

theorem quotation?_databaseLines (project : Project) (name : String) :
    ((databaseLines options project name).map (·.item)).filterMap (·.quotation?) =
      (commentIfAny .database name project.documentation).map fun quotation => (0, quotation) := by
  have hstatements : ∀ collation : Option String,
      ((staircase (Sql.createDatabase name options.owner options.encoding options.tablespace
        collation)).map (·.item)).filterMap (·.quotation?) = [] := by
    intro collation
    unfold Sql.createDatabase
    cases collation with
    | none => rfl
    | some collation =>
        simp only
        split <;> rfl
  unfold databaseLines commentIfAny
  rw [List.map_append, List.map_append, List.filterMap_append, List.filterMap_append, hstatements]
  split <;> rfl

theorem quotation?_schemaLines (new : List (DataModel × String)) :
    ((new.flatMap fun (dataModel, schema) => schemaLines options dataModel schema).map
        (·.item)).filterMap (·.quotation?) =
      (new.flatMap fun (dataModel, schema) =>
        commentIfAny .schema schema dataModel.documentation).map fun quotation =>
          (0, quotation) := by
  induction new with
  | nil => rfl
  | cons entry new ih =>
      obtain ⟨dataModel, schema⟩ := entry
      rw [List.flatMap_cons, List.map_append, List.filterMap_append, ih, List.flatMap_cons,
        List.map_append]
      simp only [schemaLines, commentIfAny]
      split <;> rfl

theorem quotation?_edits (schema : String) (file : TableFile) :
    (file.edits options index schema).filterMap Table.Edit.quotation? =
      ((file.generated schema).flatMap fun (table, entity) =>
        Table.quotations options table entity).map fun quotation => (0, quotation) := by
  unfold TableFile.edits TableFile.generated
  induction file.entities with
  | nil => rfl
  | cons entity entities ih =>
      rw [List.flatMap_cons, List.filterMap_append, ih, List.filterMap_cons]
      cases hname : Naming.prefixedTableName file.tablePrefix entity.toElement with
      | error fault =>
          rw [Table.entityEdits_of_error _ _ _ _ _ hname]
          rfl
      | ok tableName =>
          rw [Table.quotation?_entityEdits options index hname, ← List.map_append]
          rfl

/-- The quotations of an artifact stand in the script that creates it, all at the outermost
level. -/
theorem quotation?_createItems (artifact : Artifact) :
    (artifact.createItems options index).filterMap (·.quotation?) =
      (artifact.quotations options).map fun quotation => (0, quotation) := by
  cases artifact with
  | database project => exact quotation?_databaseLines options project _
  | schemas project => exact quotation?_schemaLines options _
  | routines kind dataModel =>
      refine List.filterMap_eq_nil_iff.2 fun item hitem => ?_
      obtain ⟨placed, hplaced, rfl⟩ := List.mem_map.1 hitem
      obtain ⟨routine, -, hline⟩ := List.mem_flatMap.1 hplaced
      simp only [createRoutineLines, List.mem_cons, List.not_mem_nil, or_false] at hline
      rcases hline with rfl | rfl | rfl | rfl <;> rfl
  | tables schema file =>
      have hkeys : (((file.edits options index schema).filterMap Table.Edit.key?).map
          fun key => (⟨0, .statement key.statement⟩ : Sql.ScriptItem)).filterMap
            (·.quotation?) = [] := by
        rw [List.filterMap_map]
        exact List.filterMap_eq_nil_iff.2 fun key _ => by cases key <;> rfl
      rw [createItems, List.filterMap_append, hkeys, List.append_nil, List.filterMap_filterMap]
      exact quotation?_edits options index schema file

theorem quotation?_dropItems (artifact : Artifact) :
    (artifact.dropItems options index).filterMap (·.quotation?) = [] := by
  have hcreations : ∀ creations : List Sql.Creation,
      (creations.map (·.dropItem)).filterMap (·.quotation?) = [] := by
    intro creations
    rw [List.filterMap_map]
    exact List.filterMap_eq_nil_iff.2 fun creation _ => by cases creation <;> rfl
  cases artifact with
  | database project => rfl
  | routines kind dataModel =>
      rw [dropItems, List.filterMap_map]
      exact List.filterMap_eq_nil_iff.2 fun _ _ => rfl
  | schemas project =>
      rw [dropItems, List.filterMap_map]
      exact List.filterMap_eq_nil_iff.2 fun _ _ => rfl
  | tables schema file =>
      obtain ⟨-, -, -, hdrop⟩ := exists_blocks_edits options index schema file
      rw [dropItems, hdrop, hcreations]

theorem mem_staircase {statement : Sql.Statement} {statements : List Sql.Statement}
    (h : statement ∈ statements) :
    ∃ depth, ⟨depth, .statement statement⟩ ∈ staircase statements := by
  match statements, h with
  | [first], h => exact ⟨0, by simp [staircase, List.mem_singleton.1 h]⟩
  | first :: second :: rest, h =>
      rcases List.mem_cons.1 h with rfl | h
      · exact ⟨0, List.mem_cons_self ..⟩
      rcases List.mem_cons.1 h with rfl | h
      · exact ⟨1, List.mem_cons_of_mem _ (List.mem_cons_self ..)⟩
      · exact ⟨2, List.mem_cons_of_mem _ (List.mem_cons_of_mem _ (List.mem_map_of_mem h))⟩

section Sound

variable {options index} {artifact : Artifact}
  (hsound : (artifact.createItems options index).all (·.line.isWritable) = true)

include hsound

theorem hasLiteral_of_mem_quotations {quotation : Sql.Quotation}
    (hquotation : quotation ∈ artifact.quotations options) {value : String}
    (hvalue : some value ∈ quotation.values) : Sql.hasLiteral value = true := by
  have hplaced : (0, quotation) ∈
      (artifact.createItems options index).filterMap (·.quotation?) := by
    rw [quotation?_createItems]
    exact List.mem_map_of_mem hquotation
  obtain ⟨item, hitem, hplaced⟩ := List.mem_filterMap.1 hplaced
  obtain ⟨_, hline, heq⟩ := Option.map_eq_some_iff.1 hplaced
  obtain ⟨-, rfl⟩ := Prod.mk.inj heq
  exact Sql.Line.hasLiteral_of_quotation? hline (List.all_eq_true.1 hsound item hitem) value hvalue

theorem hasLiteral_of_mem_settings {value : String} (h : value ∈ artifact.settings options) :
    Sql.hasLiteral value = true := by
  cases artifact with
  | routines kind dataModel => cases h
  | tables schema file => cases h
  | schemas project => cases h
  | database project =>
      have hstatement : ∀ statement ∈ Sql.createDatabase
          (Naming.databaseName project.toElement).name options.owner options.encoding
          options.tablespace options.collation?, statement.isWritable = true := by
        intro statement hstatement
        obtain ⟨depth, hline⟩ := mem_staircase hstatement
        have hitem : (⟨depth, .statement statement⟩ : Sql.ScriptItem) ∈
            (Artifact.database project).createItems options index :=
          List.mem_map_of_mem (List.mem_append_left _ (List.mem_append_right _ hline))
        exact List.all_eq_true.1 hsound _ hitem
      rcases List.mem_cons.1 h with rfl | h
      · have hencoding := hstatement (.databaseEncoding options.encoding)
          (by simp [Sql.createDatabase])
        simpa [Sql.Statement.isWritable, Sql.Statement.literals] using hencoding
      · obtain ⟨hcollation, hne⟩ := Option.filter_eq_some_iff.1 (Option.mem_toList.1 h)
        have hvalue := hstatement (.databaseCollation value)
          (by simp [Sql.createDatabase, hcollation, show value ≠ "" by simpa using hne])
        simpa [Sql.Statement.isWritable, Sql.Statement.literals] using hvalue

/-- All texts in a sound script have a literal, those that come from the model included. -/
theorem hasLiteral_of_mem_literals {value : String} (h : value ∈ artifact.literals options) :
    Sql.hasLiteral value = true := by
  rcases List.mem_append.1 h with h | h
  · obtain ⟨quotation, hquotation, hvalue⟩ := List.mem_flatMap.1 h
    obtain ⟨found, hfound, rfl⟩ := List.mem_filterMap.1 hvalue
    exact hasLiteral_of_mem_quotations hsound hquotation hfound
  · exact hasLiteral_of_mem_settings hsound h

end Sound

end Items

end Artifact
end Generation
end ErdSql
