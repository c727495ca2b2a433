import ErdSql.Proofs.TableBlocks

/-!
# Statements with literals

Three kinds of statements of a table write texts of the modeller as literals: those that create a
type with its labels, comments, and rows to insert.  They are known from the entity.  All other
changes that an entity makes to its group hold no such text, and the last one counts the table.
-/

namespace ErdSql

/-- Whether the line is a statement that writes texts of the modeller as literals. -/
def Sql.Line.isQuoting : Sql.Line → Bool
  | .statement (.createEnum _ _) => true
  | .statement (.comment _ _ _) => true
  | .statement (.insert _ _ _) => true
  | _ => false

namespace Table

/-- Whether the change neither adds a statement with literals nor counts a table. -/
def Edit.isUnquoted : Edit → Bool
  | .create _ line => !line.isQuoting
  | .complete _ => false
  | _ => true

/-- The comments on a table and on its columns. -/
def commentStatements (mode : DocumentationMode) (table : String) (entity : Entity) :
    List Sql.Statement :=
  (if mode = .comment then [.comment .table table entity.documentation] else []) ++
    (tableColumns table entity).filterMap fun c =>
      if c.resolved.column.documentation = "" then none
      else some (.comment .column (table ++ "." ++ c.name) c.resolved.column.documentation)

/-- The rows of a table, if its documentation is taken for rows. -/
def seedStatements (mode : DocumentationMode) (table : String) (entity : Entity) :
    List Sql.Statement :=
  if mode = .seedInserts then
    (seedRows entity.documentation).map
      (seedStatement table (entity.columns.map (resolveColumn table)))
  else []

/-- The statements of a table that write texts of the modeller as literals. -/
def quotingStatements (options : Options) (table : String) (entity : Entity) :
    List Sql.Statement :=
  let mode := documentationMode options entity
  (enumsOf table entity).map (fun (type, labels) => .createEnum type labels) ++
    commentStatements mode table entity ++ seedStatements mode table entity

theorem Edit.isUnquoted_of_isOfReference {edit : Edit} (h : edit.isOfReference = true) :
    edit.isUnquoted = true := by
  rcases eq_of_isOfReference h with ⟨event, rfl, -⟩ | ⟨key, rfl⟩
  · rfl
  · rfl

section Pieces

variable {β : Type} {f : Edit → Option β}
  (hf : ∀ edit : Edit, edit.isUnquoted = true → f edit = none)

include hf

theorem filterMap_unquoted {edits : List Edit} (h : edits.all Edit.isUnquoted = true) :
    edits.filterMap f = [] :=
  List.filterMap_eq_nil_iff.2 fun edit hedit => hf edit (List.all_eq_true.1 h edit hedit)

theorem filterMap_openingEdits (table : String) (entity : Entity) :
    (openingEdits table entity).filterMap f =
      ((enumsOf table entity).map fun (type, labels) =>
        Sql.Statement.createEnum type labels).filterMap fun s => f (createStatement s) := by
  have hreports := filterMap_reports (f := f) (fun e => hf (.event e) rfl)
  have hdrops : (dropEdits table (entity.columns.map (resolveColumn table))).filterMap f = [] := by
    refine filterMap_unquoted hf ?_
    rw [dropEdits, List.all_cons, List.all_map]
    exact Bool.and_eq_true_iff.2 ⟨rfl, List.all_eq_true.2 fun _ _ => rfl⟩
  simp only [openingEdits, List.filterMap_append, hreports, hdrops, List.append_nil]
  rw [List.filterMap_cons_none (hf _ rfl), List.filterMap_nil, List.nil_append, enumEdits,
    enumerations_map_resolveColumn]
  induction enumsOf table entity with
  | nil => rfl
  | cons new rest ih =>
      have hblank := hf blankLine rfl
      have hcast := hf (createStatement (.enumCast new.1)) rfl
      simp only [List.flatMap_cons, List.filterMap_append, ih, List.filterMap_cons, hblank, hcast,
        List.filterMap_nil, List.map_cons]
      cases f (createStatement (.createEnum new.1 new.2)) <;> rfl

theorem filterMap_commentEdits (mode : DocumentationMode) (table : String) (entity : Entity) :
    (commentEdits mode table entity (tableColumns table entity)).filterMap f =
      (commentStatements mode table entity).filterMap fun s => f (createStatement s) := by
  have hblank : ∀ none : Bool, (if none then [] else [blankLine]).filterMap f = [] := by
    intro none
    cases none with
    | true => rfl
    | false => exact List.filterMap_cons_none (hf _ rfl)
  simp only [commentEdits, commentStatements, List.filterMap_append, hblank, List.append_nil]
  congr 1
  · split <;> rfl
  · rw [List.filterMap_filterMap, List.filterMap_filterMap]
    refine List.filterMap_congr fun column _ => ?_
    split <;> rfl

theorem filterMap_seedEdits (mode : DocumentationMode) (table : String) (entity : Entity) :
    (if mode = .seedInserts then
        seedEdits table entity (entity.columns.map (resolveColumn table)) else []).filterMap f =
      (seedStatements mode table entity).filterMap fun s => f (createStatement s) := by
  simp only [seedStatements, seedEdits]
  split
  · cases seedRows entity.documentation with
    | nil => rfl
    | cons row rows =>
        rw [List.isEmpty_cons, if_neg Bool.false_ne_true, List.filterMap_append,
          List.filterMap_cons_none (hf blankLine rfl), List.filterMap_nil, List.append_nil,
          List.filterMap_map, List.filterMap_map]
        rfl
  · rfl

theorem filterMap_closingEdits (options : Options) (table tableName : String) (entity : Entity) :
    (closingEdits options table tableName entity).filterMap f =
      (commentStatements (documentationMode options entity) table entity).filterMap
          (fun s => f (createStatement s)) ++
        (seedStatements (documentationMode options entity) table entity).filterMap
          (fun s => f (createStatement s)) ++ (f (.complete table)).toList := by
  have hblank : Edit.isUnquoted blankLine = true := rfl
  have hbody := filterMap_unquoted hf
    (all_bodyEdits table hblank rfl (fun _ _ => rfl) rfl (tableColumns table entity))
  have hunique := filterMap_unquoted hf
    (all_uniqueEdits table hblank (fun _ => rfl) (tableColumns table entity))
  have hforeign := filterMap_unquoted hf
    (all_foreignIndexEdits table hblank (fun _ => rfl) (tableColumns table entity))
  have huser := filterMap_unquoted hf
    (all_userIndexEdits table hblank (fun _ => rfl) (fun _ => rfl) (tableColumns table entity))
  have htrigger := filterMap_unquoted hf
    (all_triggerEdits table hblank (fun _ => rfl) (fun _ _ => rfl) (fun _ => rfl) options entity
      tableName)
  have hcomment := filterMap_commentEdits hf (documentationMode options entity) table entity
  have hseed := filterMap_seedEdits hf (documentationMode options entity) table entity
  simp only [tableColumns] at hbody hunique hforeign huser hcomment
  simp only [closingEdits, List.filterMap_append, hbody, hunique, hforeign, huser, htrigger,
    hcomment, hseed, List.nil_append, List.append_nil]
  cases hlast : f (.complete table) <;> simp [hlast]

/-- What is seen of the changes of an entity whose table has a name, by what sees only statements
with literals and the table that is counted. -/
theorem filterMap_entityEdits {options : Options} {index : Index} {schema tablePrefix : String}
    {entity : Entity} {tableName : String}
    (h : Naming.prefixedTableName tablePrefix entity.toElement = .ok tableName) :
    (entityEdits options index schema tablePrefix entity).filterMap f =
      (quotingStatements options (schema ++ "." ++ tableName) entity).filterMap
          (fun s => f (createStatement s)) ++
        (f (.complete (schema ++ "." ++ tableName))).toList := by
  have hreferences := filterMap_referenceEdits
    (fun edit hedit => hf edit (Edit.isUnquoted_of_isOfReference hedit)) options index
    (schema ++ "." ++ tableName) tableName (tableColumns (schema ++ "." ++ tableName) entity)
  rw [entityEdits_of_ok _ _ _ _ _ h, List.filterMap_append, List.filterMap_append, hreferences,
    filterMap_openingEdits hf, filterMap_closingEdits hf]
  simp only [quotingStatements, List.filterMap_append, List.nil_append, List.append_assoc]

end Pieces

/-- An entity whose table has a name counts its table once. -/
theorem tables_entityEdits (options : Options) (index : Index) (schema tablePrefix : String)
    (entity : Entity) :
    (entityEdits options index schema tablePrefix entity).filterMap Edit.table? =
      ((Naming.prefixedTableName tablePrefix entity.toElement).toOption.map fun tableName =>
        schema ++ "." ++ tableName).toList := by
  have hnone : ∀ edit : Edit, edit.isUnquoted = true → edit.table? = none := by
    intro edit hedit
    cases edit <;> first | rfl | cases hedit
  cases hname : Naming.prefixedTableName tablePrefix entity.toElement with
  | error fault =>
      rw [entityEdits_of_error _ _ _ _ _ hname]
      rfl
  | ok tableName =>
      have hquoting : (quotingStatements options (schema ++ "." ++ tableName) entity).filterMap
          (fun s => (createStatement s).table?) = [] :=
        List.filterMap_eq_nil_iff.2 fun _ _ => rfl
      rw [filterMap_entityEdits hnone hname, hquoting]
      rfl

end Table
end ErdSql
