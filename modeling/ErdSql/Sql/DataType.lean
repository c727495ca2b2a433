import ErdSql.Model.Element
import ErdSql.Text.Blank
import ErdSql.Text.Split

/-!
# Column types

How the abstract type of a column is spelled in PostgreSQL.  Some types carry a length, and
three integer types have a spelling of their own for columns that number themselves, which a
column asks for by the length -1.  A type that is not known stands for itself.
-/

namespace ErdSql
namespace Sql

/-- The spelling of an abstract type. -/
structure TypeSpelling where
  name : String
  withLength : Bool := false
  autoIncrement : Option String := none

def typeSpelling? : String → Option TypeSpelling
  | "VARCHAR" => some { name := "varchar", withLength := true }
  | "CHAR" => some { name := "char", withLength := true }
  | "TEXT" => some { name := "text" }
  | "INTEGER" => some { name := "integer", autoIncrement := some "serial" }
  | "SMALLINT" => some { name := "smallint", autoIncrement := some "smallserial" }
  | "BIGINT" => some { name := "bigint", autoIncrement := some "bigserial" }
  | "DECIMAL" => some { name := "numeric", withLength := true }
  | "NUMERIC" => some { name := "numeric", withLength := true }
  | "FLOAT" => some { name := "real" }
  | "DOUBLE" => some { name := "double precision" }
  | "BIT" => some { name := "bit", withLength := true }
  | "BOOLEAN" => some { name := "boolean" }
  | "BINARY" => some { name := "bytea" }
  | "VARBINARY" => some { name := "bytea" }
  | "BLOB" => some { name := "bytea" }
  | "DATE" => some { name := "date" }
  | "TIME" => some { name := "time without time zone" }
  | "DATETIME" => some { name := "timestamp with time zone" }
  | "TIMESTAMPTZ" => some { name := "timestamp with time zone" }
  | "TIMESTAMP" => some { name := "timestamp without time zone" }
  | "POINT" => some { name := "point" }
  | "POLYGON" => some { name := "polygon" }
  | "CIDR" => some { name := "cidr" }
  | "INET" => some { name := "inet" }
  | _ => none

/-- The length of a column as a text, without blanks around it. -/
def lengthText (column : Column) : String :=
  match column.length with
  | some length => Text.trim length.shown
  | none => ""

def requestsAutoIncrement (column : Column) : Bool :=
  lengthText column = "-1"

/-- Whether a value must be given; a member of the primary key always needs one. -/
def isRequired (column : Column) : Bool :=
  column.primaryKey || !column.nullable

/-- The length in parentheses, or nothing if there is none. -/
def lengthClause (column : Column) : String :=
  let length := lengthText column
  if length = "" then "" else "(" ++ length ++ ")"

def dataType (column : Column) : String :=
  match typeSpelling? column.type with
  | none => column.type
  | some spelling =>
      match spelling.autoIncrement with
      | some serial => if requestsAutoIncrement column then serial else spelling.name
      | none =>
          if spelling.withLength then spelling.name ++ lengthClause column else spelling.name

/-- The mark of the types of columns that number themselves. -/
def serialMark : String := "serial"

/-- Whether a type is one of a column that numbers itself: its spelling contains the mark. -/
def isAutoIncrementType (sqlType : String) : Bool :=
  Text.contains serialMark sqlType

end Sql
end ErdSql
