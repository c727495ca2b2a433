import ErdSql.Sql.Literal
import ErdSql.Text.Blank

/-!
# Statements

The pieces of SQL that generation writes, before they become text.  Names in a statement have
been checked and are written as they are; texts of the modeller become literals.  A statement
is writable when all the texts in it have a literal.
-/

namespace ErdSql
namespace Sql

/-- A column of an index. -/
structure IndexMember where
  column : String
  descending : Bool := false
deriving DecidableEq, Repr

def IndexMember.text (m : IndexMember) : String :=
  if m.descending then m.column ++ " DESC" else m.column

/-- A foreign key: the column of a table, and the column of another one that it refers to. -/
structure ForeignKey where
  /-- The table with its schema. -/
  table : String
  /-- The table without its schema, for the name of the constraint. -/
  constraintTable : String
  column : String
  refSchema : String
  refTable : String
  refColumn : String
deriving DecidableEq, Repr

def ForeignKey.constraintName (key : ForeignKey) : String :=
  "FK_" ++ key.constraintTable ++ "__" ++ key.column

/-- A line in the body of a table. -/
inductive TableEntry where
  | column (name sqlType : String) (notNull : Bool) (default : Option String)
  | primaryKey (columns : List String)
deriving DecidableEq, Repr

def nameList (names : List String) : String :=
  String.intercalate ", " names

def TableEntry.text : TableEntry → String
  | .column name sqlType notNull default =>
      name ++ " " ++ sqlType ++ (if notNull then " NOT NULL" else "") ++
        match default with
        | some value => if value = "" then "" else " DEFAULT " ++ value
        | none => ""
  | .primaryKey columns => "PRIMARY KEY (" ++ nameList columns ++ ")"

/-- What a comment is about. -/
inductive CommentTarget where
  | table
  | column
  | schema
  | database
deriving DecidableEq, Repr

def CommentTarget.keyword : CommentTarget → String
  | .table => "TABLE"
  | .column => "COLUMN"
  | .schema => "SCHEMA"
  | .database => "DATABASE"

/-- The kinds of routines. -/
inductive RoutineKind where
  | function
  | procedure
deriving DecidableEq, Repr

def RoutineKind.keyword : RoutineKind → String
  | .function => "FUNCTION"
  | .procedure => "PROCEDURE"

/-- The kind in lower case, as it appears in messages and file names. -/
def RoutineKind.word : RoutineKind → String
  | .function => "function"
  | .procedure => "procedure"

/-- A piece of SQL. -/
inductive Statement where
  | createTable (table : String)
  /-- A line in the body of a table; all but the last are followed by a comma. -/
  | tableEntry (entry : TableEntry) (last : Bool)
  | dropTable (table : String)
  | createIndex (table : String) (members : List IndexMember)
  | addUnique (table : String) (columns : List String)
  | addForeignKey (key : ForeignKey)
  | createEnum (type : String) (labels : List String)
  | enumCast (type : String)
  | dropEnum (type : String)
  | comment (target : CommentTarget) (name text : String)
  | createTrigger (trigger event table : String)
  | insert (table : String) (columns : List String) (values : List (Option String))
  | createSchema (schema owner : String)
  | dropSchema (schema : String)
  | createDatabase (database : String)
  | databaseOwner (owner : String)
  | databaseEncoding (encoding : String)
  | databaseTablespace (tablespace : String)
  | databaseCollation (collation : String)
  | databaseCharacterType (collation : String)
  | databaseConnections
  | dropDatabase (database : String)
  | createRoutine (kind : RoutineKind) (name : String)
  | dropRoutine (kind : RoutineKind) (name : String)
  /-- SQL that is already text. -/
  | verbatim (text : String)
deriving DecidableEq, Repr

namespace Statement

def text : Statement → String
  | .createTable table => "CREATE TABLE " ++ table ++ " ("
  | .tableEntry entry last => if last then entry.text else entry.text ++ ","
  | .dropTable table => "DROP TABLE IF EXISTS " ++ table ++ " CASCADE;"
  | .createIndex table members =>
      "CREATE INDEX ON " ++ table ++ " (" ++ nameList (members.map (·.text)) ++ ");"
  | .addUnique table columns =>
      "ALTER TABLE " ++ table ++ " ADD UNIQUE (" ++ nameList columns ++ ");"
  | .addForeignKey key =>
      "ALTER TABLE " ++ key.table ++ " ADD CONSTRAINT " ++ key.constraintName ++
        " FOREIGN KEY (" ++ key.column ++ ") REFERENCES " ++ key.refSchema ++ "." ++
        key.refTable ++ "(" ++ key.refColumn ++ ");"
  | .createEnum type labels =>
      "CREATE TYPE " ++ type ++ " AS ENUM(" ++
        String.intercalate ", " (labels.map fun l => literal (some l)) ++ ");"
  | .enumCast type =>
      "CREATE CAST (CHARACTER VARYING AS " ++ type ++ ") WITH INOUT AS IMPLICIT;"
  | .dropEnum type => "DROP TYPE " ++ type ++ " CASCADE;"
  | .comment target name text =>
      "COMMENT ON " ++ target.keyword ++ " " ++ name ++ " IS " ++ literal (some text) ++ ";"
  | .createTrigger trigger event table =>
      "CREATE TRIGGER " ++ trigger ++ " " ++ Text.trim event ++ " ON " ++ table
  | .insert table columns values =>
      "INSERT INTO " ++ table ++ " (" ++ nameList columns ++ ") VALUES (" ++
        String.intercalate ", " (values.map literal) ++ ");"
  | .createSchema schema owner =>
      "CREATE SCHEMA " ++ schema ++ " AUTHORIZATION " ++ owner ++ ";"
  | .dropSchema schema => "DROP SCHEMA " ++ schema ++ ";"
  | .createDatabase database => "CREATE DATABASE " ++ database
  | .databaseOwner owner => "WITH OWNER = " ++ owner
  | .databaseEncoding encoding => "ENCODING = " ++ literal (some encoding)
  | .databaseTablespace tablespace => "TABLESPACE = " ++ tablespace
  | .databaseCollation collation => "LC_COLLATE = " ++ literal (some collation)
  | .databaseCharacterType collation => "LC_CTYPE = " ++ literal (some collation)
  | .databaseConnections => "CONNECTION LIMIT = -1;"
  | .dropDatabase database => "DROP DATABASE " ++ database ++ ";"
  | .createRoutine kind name => "CREATE OR REPLACE " ++ kind.keyword ++ " " ++ name
  | .dropRoutine kind name =>
      "DROP " ++ kind.keyword ++ " IF EXISTS " ++ name ++ " () CASCADE;"
  | .verbatim text => text

/-- The texts that the statement writes as literals. -/
def literals : Statement → List String
  | .createEnum _ labels => labels
  | .comment _ _ text => [text]
  | .insert _ _ values => values.filterMap id
  | .databaseEncoding encoding => [encoding]
  | .databaseCollation collation => [collation]
  | .databaseCharacterType collation => [collation]
  | _ => []

/-- Whether all the texts in the statement have a literal. -/
def isWritable (s : Statement) : Bool :=
  s.literals.all hasLiteral

end Statement

/-- A constraint that is added to a table once all tables are there. -/
inductive Constraint where
  | foreignKey (key : ForeignKey)
  /-- A constraint that is already text. -/
  | verbatim (text : String)
deriving DecidableEq, Repr

def Constraint.statement : Constraint → Statement
  | .foreignKey key => .addForeignKey key
  | .verbatim text => .verbatim text

/-- A constraint writes no literals, so it can always be written. -/
theorem Constraint.isWritable_statement (c : Constraint) : c.statement.isWritable = true := by
  cases c <;> rfl

/-- The statements that create a database: two of their own and the options of the second.
The collation is left out if there is none. -/
def createDatabase (database owner encoding tablespace : String) (collation : Option String) :
    List Statement :=
  let collations :=
    match collation with
    | some c => if c = "" then [] else [.databaseCollation c, .databaseCharacterType c]
    | none => []
  [.createDatabase database, .databaseOwner owner, .databaseEncoding encoding,
    .databaseTablespace tablespace] ++ collations ++ [.databaseConnections]

end Sql
end ErdSql
