import ErdSql.Model.Index
import ErdSql.Options.Basic
import ErdSql.Table.Columns
import ErdSql.Table.Group

/-!
# Layout of a table

The changes that an entity makes to the group of its table, in this order: the types of its
enumerations; its drop statements; its foreign keys, put off; the table itself with its columns
and primary key; unique columns; the indexes of its foreign key columns; the indexes that the
modeller asked for; comments; triggers; and rows to insert.
-/

namespace ErdSql
namespace Table

/-- How the documentation of an entity is used. -/
inductive DocumentationMode where
  | none
  | comment
  /-- Each line is a row to insert. -/
  | seedInserts
deriving DecidableEq, Repr

def DocumentationMode.name : DocumentationMode → String
  | .none => "none"
  | .comment => "comment"
  | .seedInserts => "seed_inserts"

/-- How the documentation of an entity is used: its `inserts` tag decides, and the options do
if it has none. -/
def documentationMode (options : Options) (entity : Entity) : DocumentationMode :=
  if Text.isAllBlank entity.documentation then
    .none
  else
    let inserts := match entity.tags.find? "inserts" with
      | some tag => tag.checked
      | none => options.tableInserts
    if inserts then .seedInserts else .comment

/-- A column with a name that can be used, and the name. -/
structure NamedColumn where
  name : String
  resolved : ResolvedColumn
deriving Repr

def namedColumns (columns : List ResolvedColumn) : List NamedColumn :=
  columns.filterMap fun c => c.name.map fun name => ⟨name, c⟩

/-- The keys that a column can be part of; the first that applies counts. -/
inductive KeyClass where
  | primary
  | unique
  | foreign
  | plain
deriving DecidableEq, Repr

def keyClass (column : Column) : KeyClass :=
  if column.primaryKey then .primary
  else if column.unique then .unique
  else if column.foreignKey then .foreign
  else .plain

def namesOfClass (keys : KeyClass) (columns : List NamedColumn) : List String :=
  (columns.filter fun c => keyClass c.resolved.column = keys).map (·.name)

/-- The default of a column, unless its type numbers itself. -/
def effectiveDefault (column : ResolvedColumn) : Option String :=
  if Sql.isAutoIncrementType column.sqlType then none else column.default

def columnEntry (column : NamedColumn) : Sql.TableEntry :=
  .column column.name column.resolved.sqlType (Sql.isRequired column.resolved.column)
    (effectiveDefault column.resolved)

def tableEntries (columns : List NamedColumn) : List Sql.TableEntry :=
  let keys := namesOfClass .primary columns
  columns.map columnEntry ++ if keys.isEmpty then [] else [.primaryKey keys]

/-- The lines of the body as statements: all but the last with a comma. -/
def entryStatements : List Sql.TableEntry → List Sql.Statement
  | [] => []
  | [entry] => [.tableEntry entry true]
  | entry :: next :: rest => .tableEntry entry false :: entryStatements (next :: rest)

/-- What is made of a column that refers to another: a foreign key, or reports of why there is
none. -/
structure Reference where
  reports : List Diagnostic
  key : Option Sql.ForeignKey
deriving Repr

/-- The prefix of the tables of an element that owns entities. -/
def prefixOf : Option Node → String
  | some (.diagram diagram) => diagram.tags.valueOf "prefix"
  | _ => ""

/-- Resolves the reference of a column.  The names of the table and the column referred to are
reported where they are generated, so they are not reported here; the schema is. -/
def resolveReference (index : Index) (table tableName : String) (column : NamedColumn)
    (target : String) : Reference :=
  let element := column.resolved.column.name
  let missing : Reference :=
    ⟨[⟨.warning, "Reference target " ++ target ++ " not found for column " ++ column.name ++
        " of " ++ table, some element⟩], none⟩
  match index.column? (.named target) with
  | none => missing
  | some referred =>
      match index.owner? (.column referred) with
      | none => missing
      | some owner =>
          let refColumn := Naming.columnName referred.toElement
          let refTable :=
            Naming.prefixedTableName (prefixOf (index.owner? owner)) owner.element
          let refSchema :=
            Naming.schemaName? ((index.dataModelOf? owner).map (·.toElement))
          let schemaReports := match refSchema with
            | .error fault => [fault.diagnostic]
            | .ok _ => []
          match refColumn, refTable, refSchema with
          | .ok refColumn, .ok refTable, .ok refSchema =>
              ⟨schemaReports, some
                { table := table, constraintTable := tableName, column := column.name,
                  refSchema := refSchema, refTable := refTable, refColumn := refColumn }⟩
          | _, _, _ =>
              ⟨schemaReports ++
                [⟨.warning, "Reference target " ++ owner.name ++ "." ++ referred.name ++
                  " has no valid name, foreign key skipped for column " ++ column.name ++
                  " of " ++ table, some element⟩], none⟩

/-- The reference that a column makes, if it makes one. -/
def referenceTarget? (column : Column) : Option String :=
  match column.referenceTo with
  | some target => if target = "" then none else some target
  | none => none

def reportEdit (d : Diagnostic) : Edit :=
  .event (.report d)

def Reference.edits (reference : Reference) : List Edit :=
  reference.reports.map reportEdit ++
    (reference.key.map fun key => Edit.defer (.foreignKey key)).toList

def referenceEdits (options : Options) (index : Index) (table tableName : String)
    (columns : List NamedColumn) : List Edit :=
  if options.foreignKeys then
    columns.flatMap fun column =>
      match referenceTarget? column.resolved.column with
      | some target => (resolveReference index table tableName column target).edits
      | none => []
  else
    []

def createLine (line : Sql.Line) : Edit :=
  .create 0 line

def createStatement (statement : Sql.Statement) : Edit :=
  createLine (.statement statement)

def blankLine : Edit :=
  createLine .blank

/-- The types of the enumerations of a table, each with its type name. -/
def enumerations (columns : List ResolvedColumn) : List (String × List String) :=
  columns.filterMap fun c => c.enumeration.map fun type => (type, c.labels)

def enumEdits (columns : List ResolvedColumn) : List Edit :=
  (enumerations columns).flatMap fun (type, labels) =>
    [createStatement (.createEnum type labels), blankLine,
      createStatement (.enumCast type), blankLine]

/-- The table is dropped before the types that it uses. -/
def dropEdits (table : String) (columns : List ResolvedColumn) : List Edit :=
  .drop (.statement (.dropTable table)) ::
    (enumerations columns).map fun (type, _) => .drop (.statement (.dropEnum type))

def bodyEdits (table : String) (columns : List NamedColumn) : List Edit :=
  [createStatement (.createTable table)] ++
    ((entryStatements (tableEntries columns)).map fun s => .create 1 (.statement s)) ++
    [createLine (.text ");"), blankLine]

def uniqueEdits (table : String) (columns : List NamedColumn) : List Edit :=
  let names := namesOfClass .unique columns
  if names.isEmpty then [] else [createStatement (.addUnique table names), blankLine]

def foreignIndexEdits (table : String) (columns : List NamedColumn) : List Edit :=
  let names := namesOfClass .foreign columns
  if names.isEmpty then []
  else (names.map fun name => createStatement (.createIndex table [⟨name, false⟩])) ++ [blankLine]

/-- A column's membership in an index that the modeller asked for. -/
structure IndexEntry where
  index : String
  place : Binary64
  member : Sql.IndexMember
deriving Repr

/-- The memberships that the `index` tags of the columns state, in order. -/
def indexEntries (columns : List NamedColumn) : List IndexEntry :=
  columns.flatMap fun c =>
    (c.resolved.column.tags.named "index").map fun tag =>
      ⟨tag.value, tag.number, ⟨c.name, tag.checked⟩⟩

/-- The distinct texts of a list, each at its first occurrence. -/
def firstOccurrences : List String → List String
  | [] => []
  | s :: rest => s :: (firstOccurrences rest).filter (· != s)

/-- The members of one index, by place; members with one place stay in their order. -/
def indexMembers (name : String) (entries : List IndexEntry) : List Sql.IndexMember :=
  ((entries.filter fun e => e.index == name).mergeSort fun a b => a.place.le b.place).map
    (·.member)

def userIndexEdits (table : String) (columns : List NamedColumn) : List Edit :=
  let entries := indexEntries columns
  (firstOccurrences (entries.map (·.index))).flatMap fun name =>
    [createLine (.text ("-- Index: " ++ name)),
      createStatement (.createIndex table (indexMembers name entries)), blankLine]

def commentEdits (mode : DocumentationMode) (table : String) (entity : Entity)
    (columns : List NamedColumn) : List Edit :=
  let ofTable :=
    if mode = .comment then [createStatement (.comment .table table entity.documentation)] else []
  let ofColumns := columns.filterMap fun c =>
    let text := c.resolved.column.documentation
    if text = "" then none
    else some (createStatement (.comment .column (table ++ "." ++ c.name) text))
  ofTable ++ ofColumns ++ if ofTable.isEmpty && ofColumns.isEmpty then [] else [blankLine]

def triggerEdits (options : Options) (entity : Entity) (table tableName : String) : List Edit :=
  (entity.tags.pointingThrough options.triggerMarker).flatMap fun tag =>
    match Naming.routineName tag with
    | .error fault => [reportEdit fault.diagnostic]
    | .ok routine =>
        [createStatement (.createTrigger (tableName ++ "_" ++ routine) tag.referenceValue table),
          .create 1 (.text tag.value), blankLine]

/-- The rows that a documentation text describes: its lines that are not blank. -/
def seedRows (documentation : String) : List String :=
  (Text.lines (Text.trim documentation)).filter fun line => !Text.isAllBlank line

/-- The value of a field of a row; a blank or missing field is no value. -/
def seedValue (fields : List String) (position : Nat) : Option String :=
  match fields[position]? with
  | none => none
  | some field =>
      let value := Text.trim field
      if value = "" then none else some value

/-- The names and values that a row gives to the columns from the given position on.  Columns
without a name take up a field all the same. -/
def seedAssignments (fields : List String) (position : Nat) :
    List ResolvedColumn → List (String × Option String)
  | [] => []
  | c :: columns =>
      let rest := seedAssignments fields (position + 1) columns
      match c.name with
      | some name => (name, seedValue fields position) :: rest
      | none => rest

def seedStatement (table : String) (columns : List ResolvedColumn) (row : String) :
    Sql.Statement :=
  let assignments := seedAssignments (Text.splitAt '|' row) 0 columns
  .insert table (assignments.map (·.1)) (assignments.map (·.2))

def seedEdits (table : String) (entity : Entity) (columns : List ResolvedColumn) : List Edit :=
  let rows := seedRows entity.documentation
  if rows.isEmpty then []
  else (rows.map fun row => createStatement (seedStatement table columns row)) ++ [blankLine]

def loggerName : String := "core.schema.table_generator"

/-- The changes that an entity with the given table name makes to its group. -/
def tableEdits (options : Options) (index : Index) (schema tableName : String)
    (entity : Entity) : List Edit :=
  let table := schema ++ "." ++ tableName
  let columns := entity.columns.map (resolveColumn table)
  let named := namedColumns columns
  let mode := documentationMode options entity
  [.event (.note .debug loggerName
      ("Generating table " ++ table ++ " from entity " ++ entity.name))] ++
    (entity.columns.flatMap (columnDiagnostics table)).map reportEdit ++
    enumEdits columns ++
    dropEdits table columns ++
    referenceEdits options index table tableName named ++
    bodyEdits table named ++
    uniqueEdits table named ++
    foreignIndexEdits table named ++
    userIndexEdits table named ++
    commentEdits mode table entity named ++
    triggerEdits options entity table tableName ++
    (if mode = .seedInserts then seedEdits table entity columns else []) ++
    [.complete table]

/-- The changes that an entity makes to its group.  An entity whose table has no name that can
be used makes none; that is reported. -/
def entityEdits (options : Options) (index : Index) (schema tablePrefix : String)
    (entity : Entity) : List Edit :=
  match Naming.prefixedTableName tablePrefix entity.toElement with
  | .error fault => [reportEdit fault.diagnostic]
  | .ok tableName => tableEdits options index schema tableName entity

def isGenerated (tablePrefix : String) (entity : Entity) : Bool :=
  (Naming.prefixedTableName tablePrefix entity.toElement).isOk

end Table
end ErdSql
