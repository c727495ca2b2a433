import ErdSql.Generation.Plan
import ErdSql.Options.Basic

/-!
# Artifacts

What is generated comes in pairs of scripts: one that creates something and one that drops it
again.  The two are written to files with a common stem, the second one only if the options
ask for it.
-/

namespace ErdSql
namespace Generation

def createPath (stem : String) : String :=
  stem ++ "_create.sql"

def dropPath (stem : String) : String :=
  stem ++ "_drop.sql"

/-- A line, and how much deeper than the others it stands. -/
structure PlacedLine where
  depth : Nat := 0
  line : Sql.Line
deriving Repr

namespace PlacedLine

def ofText (text : String) : PlacedLine :=
  { line := .text text }

def ofStatement (statement : Sql.Statement) : PlacedLine :=
  { line := .statement statement }

def blank : PlacedLine :=
  { line := .blank }

end PlacedLine

/-- The script with lines added, unless one of them cannot be written. -/
def extend (script : Sql.Script) : List PlacedLine → Except Sql.BuildFault Sql.Script
  | [] => .ok script
  | placed :: rest =>
      match script.write placed.depth placed.line with
      | .error fault => .error fault
      | .ok script => extend script rest

/-- A script that creates something and the script that drops it. -/
structure ScriptPair where
  create : Sql.Script
  drop : Sql.Script
deriving Repr

namespace ScriptPair

/-- Without lines, unless the indentation is at fault. -/
def empty (options : Options) : Except Sql.BuildFault ScriptPair :=
  options.indentUnit.map fun unit => ⟨.empty unit, .empty unit⟩

/-- With lines added to both scripts, unless one of them cannot be written. -/
def extend (pair : ScriptPair) (create drop : List PlacedLine) :
    Except Sql.BuildFault ScriptPair :=
  match Generation.extend pair.create create with
  | .error fault => .error fault
  | .ok create =>
      match Generation.extend pair.drop drop with
      | .error fault => .error fault
      | .ok drop => .ok ⟨create, drop⟩

/-- The scripts of a pair that are written, with the paths of their files. -/
def files (pair : ScriptPair) (options : Options) (stem : String) :
    List (String × Sql.Script) :=
  (createPath stem, pair.create) ::
    if options.dropStatements then [(dropPath stem, pair.drop)] else []

def write (pair : ScriptPair) (options : Options) (stem : String) : Plan Unit :=
  .emit ((pair.files options stem).map fun (path, script) => .write path script)

/-- Writes the files of a pair, unless there is nothing to create. -/
def writeIfAny (pair : ScriptPair) (options : Options) (stem : String) : Plan Unit :=
  if pair.create.hasContent then pair.write options stem else pure ()

end ScriptPair

def loggerName : String := "core.schema.sql_generator"

def progress (message : String) (element : Option String := none) : Event :=
  .report ⟨.info, message, element⟩

end Generation
end ErdSql
