import ErdSql.Naming.Resolve
import ErdSql.Sql.DataType

/-!
# Columns of a table

What generation needs to know of a column: its name, its type and its default.  A column whose
name cannot be used is left out of the table but keeps its place among the columns.  A column of
the type `enum` with labels gets a type of its own, named after its table and itself.
-/

namespace ErdSql
namespace Table

/-- The abstract type of columns whose values are listed. -/
def enumType : String := "enum"

/-- The labels of an enumeration: the pieces between commas and line feeds, without blanks
around them; blank pieces are no labels. -/
def enumLabels (raw : String) : List String :=
  ((Text.splitAtAny (fun c => c == ',' || c == '\n') raw).map Text.trim).filter (· != "")

/-- A column as it appears in its table. -/
structure ResolvedColumn where
  column : Column
  /-- Missing if the name of the column cannot be used. -/
  name : Option String
  sqlType : String
  /-- The type created for the column. -/
  enumeration : Option String
  labels : List String
  /-- The default, which is SQL and not empty. -/
  default : Option String
deriving Repr

namespace ResolvedColumn

def isEnum (column : ResolvedColumn) : Bool :=
  column.enumeration.isSome

end ResolvedColumn

def isEnumType (sqlType : String) : Bool :=
  Text.lower sqlType == enumType

/-- A column of the given table, which comes with its schema. -/
def resolveColumn (table : String) (column : Column) : ResolvedColumn :=
  let name := (Naming.columnName column.toElement).toOption
  let sqlType := Sql.dataType column
  let labels :=
    if isEnumType sqlType then enumLabels (column.tags.valueOf enumType) else []
  let enumeration :=
    if labels.isEmpty then none else name.map fun n => table ++ "_" ++ n
  let default := column.tags.valueOf "default"
  { column := column
    name := name
    sqlType := enumeration.getD sqlType
    enumeration := enumeration
    labels := labels
    default := if default = "" then none else some default }

/-- What is reported about a column of the given table. -/
def columnDiagnostics (table : String) (column : Column) : List Diagnostic :=
  match Naming.columnName column.toElement with
  | .error fault => [fault.diagnostic]
  | .ok _ =>
      if isEnumType (Sql.dataType column) &&
          (enumLabels (column.tags.valueOf enumType)).isEmpty then
        [⟨.warning, "Enum column " ++ column.name ++ " of " ++ table ++ " has no enum values",
          some column.name⟩]
      else
        []

end Table
end ErdSql
