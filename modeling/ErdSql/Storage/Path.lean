import ErdSql.Text.Split

/-!
# Paths

A path names its way through the directories step by step, from the root or from where the
program was started.  Empty steps and steps that stay where they are are left out, so that a
path has one written form; a step back is kept, because where it leads depends on the
directories.
-/

namespace ErdSql
namespace Storage

/-- Where a path begins. -/
inductive PathStart where
  /-- Where the program was started. -/
  | here
  | root
  /-- The root, in the form with two slashes. -/
  | doubleRoot
deriving DecidableEq, Repr

def PathStart.text : PathStart → String
  | .here => ""
  | .root => "/"
  | .doubleRoot => "//"

/-- A path. -/
structure Path where
  start : PathStart := .here
  steps : List String := []
deriving DecidableEq, Repr

namespace Path

/-- Whether a step leads anywhere. -/
def isStep (step : String) : Bool :=
  step != "" && step != "."

/-- Where a written path begins: one slash or more than two of them stand for the root. -/
def startOf : List Char → PathStart
  | '/' :: '/' :: '/' :: _ => .root
  | '/' :: '/' :: _ => .doubleRoot
  | '/' :: _ => .root
  | _ => .here

def ofString (s : String) : Path :=
  ⟨startOf s.toList, (Text.splitAt '/' s).filter isStep⟩

def text (path : Path) : String :=
  let written := path.start.text ++ String.intercalate "/" path.steps
  if written = "" then "." else written

/-- The second path, seen from where the first one leads. -/
def join (base path : Path) : Path :=
  if path.start = .here then { base with steps := base.steps ++ path.steps } else path

def parent (path : Path) : Path :=
  { path with steps := path.steps.dropLast }

def hasNull (path : Path) : Bool :=
  path.steps.any fun step => step.toList.contains (Char.ofNat 0)

end Path
end Storage
end ErdSql
