import ErdSql.Diagnostic
import ErdSql.Model.Element
import ErdSql.Naming.Identifier

/-!
# Names of generated things

How the names in the generated SQL are found.  An element's name is the value of its override
tag if that is not empty, and its normalised display name otherwise; it must be an identifier
and is used in lower case.  A name that is none is a fault, which the caller may report.
-/

namespace ErdSql
namespace Naming

/-- The schema that every database has; it is not created. -/
def publicSchema : String := "public"

/-- A name that cannot be used. -/
inductive NameFault where
  | table (name element : String)
  | column (name element : String)
  /-- The table name is an identifier, but not with the prefix of its diagram. -/
  | prefixedTable (name entity : String)
  | routine (name tag : String)
  | schema (name dataModel : String)
  | database (name project : String)
deriving DecidableEq, Repr

/-- What is said about a name that cannot be used. -/
def NameFault.diagnostic : NameFault → Diagnostic
  | .table name element =>
      ⟨.error, "Table name is not valid: " ++ name ++
        ", please edit the table tag for " ++ element, some element⟩
  | .column name element =>
      ⟨.error, "Column name is not valid: " ++ name ++
        ", please edit the column tag for " ++ element, some element⟩
  | .prefixedTable name entity =>
      ⟨.error, "Table name is not valid: " ++ name ++
        ", please edit the prefix tag of the diagram owning " ++ entity, some entity⟩
  | .routine name tag =>
      ⟨.error, "Routine name is not valid: " ++ name ++
        ", please edit the name for " ++ tag, some tag⟩
  | .schema name dataModel =>
      ⟨.warning, "Schema name not valid: " ++ name, some dataModel⟩
  | .database name project =>
      ⟨.warning, "Database name is not valid: " ++ name ++
        ", please edit the database tag for " ++ project, some project⟩

/-- The value of the override tag, or the normalised display name if that is empty. -/
def candidate (overrideTag : String) (element : Element) : String :=
  let value := element.tags.valueOf overrideTag
  if value = "" then normalize element.name else value

/-- The name of the table of an entity, without a prefix. -/
def tableName (entity : Element) : Except NameFault String :=
  let name := candidate "table" entity
  if isIdentifier name then .ok (Text.lower name)
  else .error (.table (Text.lower name) entity.name)

def columnName (column : Element) : Except NameFault String :=
  let name := candidate "column" column
  if isIdentifier name then .ok (Text.lower name)
  else .error (.column (Text.lower name) column.name)

/-- The name of the table of an entity behind the prefix of its diagram. -/
def prefixedTableName (tablePrefix : String) (entity : Element) : Except NameFault String :=
  match tableName entity with
  | .error fault => .error fault
  | .ok base =>
      let name := Text.lower (tablePrefix ++ base)
      if isIdentifier name then .ok name
      else .error (.prefixedTable name entity.name)

/-- The name of a function, procedure or trigger, from the name of the tag that carries it. -/
def routineName (tag : Tag) : Except NameFault String :=
  let name := Text.replaceChar '-' '_' (Text.replaceChar ' ' '_' tag.name)
  if isIdentifier name then .ok (Text.lower name)
  else .error (.routine name tag.name)

def schemaName (dataModel : Element) : Except NameFault String :=
  let name := dataModel.tags.valueOf "schema"
  if name = "" then .ok publicSchema
  else if isIdentifier name then .ok (Text.lower name)
  else .error (.schema name dataModel.name)

/-- The schema of a data model, or the public one where there is no data model. -/
def schemaName? : Option Element → Except NameFault String
  | none => .ok publicSchema
  | some dataModel => schemaName dataModel

/-- The name of a project's database.  A project without a `database` tag is assigned one, so
that the name stays when the project is renamed. -/
structure DatabaseName where
  name : String
  fault : Option NameFault
  assignment : Option Tag
deriving Repr

def DatabaseName.isValid (database : DatabaseName) : Bool :=
  database.fault.isNone

def databaseName (project : Element) : DatabaseName :=
  let name := candidate "database" project
  let lower := Text.lower name
  if isIdentifier name then
    let assignment :=
      if (project.tags.find? "database").isSome then none
      else some (Tag.ofString "database" lower)
    ⟨lower, none, assignment⟩
  else
    ⟨lower, some (.database name project.name), none⟩

end Naming
end ErdSql
