import ErdSql.Generation.Artifact
import ErdSql.Naming.Resolve

/-!
# The database

The scripts that create and drop the database itself.
-/

namespace ErdSql
namespace Generation

def databaseStem : String := "db"

/-- The statements with the second one deeper than the first, and the others deeper still. -/
def staircase : List Sql.Statement → List PlacedLine
  | [] => []
  | [first] => [⟨0, .statement first⟩]
  | first :: second :: rest =>
      ⟨0, .statement first⟩ :: ⟨1, .statement second⟩ :: rest.map fun s => ⟨2, .statement s⟩

def databaseLines (options : Options) (project : Project) (name : String) : List PlacedLine :=
  [.ofText ("-- Database: " ++ project.name), .ofText ("-- Author: " ++ project.author)] ++
    staircase (Sql.createDatabase name options.owner options.encoding options.tablespace
      options.collation?) ++
    if project.documentation = "" then []
    else [.blank, .ofStatement (.comment .database name project.documentation)]

/-- The events of finding the name of the database. -/
def databaseNameEvents (project : Project) (database : Naming.DatabaseName) : List Event :=
  let reported := match database.fault with
    | some fault => [Event.report fault.diagnostic]
    | none => []
  let assigned := match database.assignment with
    | some tag =>
        [{ action := .assign tag },
          .note .info loggerName
            ("Assigned database tag '" ++ database.name ++ "' to project " ++ project.name)]
    | none => []
  reported ++ assigned

/-- Generates the scripts of the database; whether its name can be used. -/
def database (options : Options) (project : Project) : Plan Bool := do
  let database := Naming.databaseName project.toElement
  .emit (databaseNameEvents project database)
  if database.isValid then
    let pair ← .ofExcept (ScriptPair.empty options)
    let pair ← .ofExcept (pair.extend (databaseLines options project database.name)
      [.ofStatement (.dropDatabase database.name)])
    pair.write options databaseStem
    return true
  else
    return false

end Generation
end ErdSql
