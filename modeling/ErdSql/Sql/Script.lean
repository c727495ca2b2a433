import ErdSql.Sql.Fault
import ErdSql.Sql.Statement
import ErdSql.Text.Split

/-!
# Scripts

A script is a sequence of lines of SQL, each at a level of indentation.  Its text is formed
only at the end: a line with line feeds in it becomes several, each of which is indented unless
it is empty.
-/

namespace ErdSql
namespace Sql

/-- What is added to a script at once. -/
inductive Line where
  | blank
  | text (text : String)
  | statement (statement : Statement)
deriving DecidableEq, Repr

namespace Line

def shown : Line → String
  | .blank => ""
  | .text s => s
  | .statement s => s.text

/-- Whether all the texts in the line have a literal. -/
def isWritable : Line → Bool
  | .statement s => s.isWritable
  | _ => true

end Line

/-- A line at its level. -/
structure ScriptItem where
  level : Nat
  line : Line
deriving DecidableEq, Repr

/-- A sequence of lines, and the level of the next one. -/
structure Script where
  indentUnit : String
  level : Nat := 0
  items : List ScriptItem := []
deriving DecidableEq, Repr

namespace Script

def empty (indentUnit : String) : Script :=
  { indentUnit := indentUnit }

/-- One level deeper from the next line on. -/
def indent (script : Script) : Script :=
  { script with level := script.level + 1 }

/-- One level back from the next line on; there is no level below zero. -/
def outdent (script : Script) : Script :=
  { script with level := script.level - 1 }

/-- Adds a line, `depth` levels deeper than the next line would be. -/
def addAt (script : Script) (depth : Nat) (line : Line) : Script :=
  { script with items := script.items ++ [⟨script.level + depth, line⟩] }

def add (script : Script) (line : Line) : Script :=
  script.addAt 0 line

def write (script : Script) (depth : Nat) (line : Line) : Except BuildFault Script :=
  if line.isWritable then .ok (script.addAt depth line) else .error .nullCharacter

end Script

def indentation (indentUnit : String) : Nat → String
  | 0 => ""
  | level + 1 => indentUnit ++ indentation indentUnit level

def ScriptItem.textLines (indentUnit : String) (item : ScriptItem) : List String :=
  (Text.splitAt '\n' item.line.shown).map fun part =>
    if part = "" then "" else indentation indentUnit item.level ++ part

namespace Script

def textLines (script : Script) : List String :=
  script.items.flatMap (ScriptItem.textLines script.indentUnit)

def length (script : Script) : Nat :=
  script.textLines.length

/-- Whether some line is not blank. -/
def hasContent (script : Script) : Bool :=
  script.textLines.any fun line => !Text.isAllBlank line

/-- The text of the script; every line of it ends in a line feed. -/
def text (script : Script) : String :=
  String.join (script.textLines.map (· ++ "\n"))

end Script
end Sql
end ErdSql
