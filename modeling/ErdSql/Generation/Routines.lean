import ErdSql.Generation.Artifact
import ErdSql.Naming.Resolve

/-!
# Functions and procedures

A reference tag of a data model that points at the marker of a kind of routine is a routine of
that kind: its name is the name of the routine, and its value the SQL of parameters and body.
-/

namespace ErdSql
namespace Generation

/-- The marker of the tags that are routines of a kind. -/
def routineMarker (options : Options) : Sql.RoutineKind → String
  | .function => options.functionMarker
  | .procedure => options.procedureMarker

/-- The stem of the files of the routines of a kind. -/
def routineStem (modelName : String) (kind : Sql.RoutineKind) : String :=
  modelName ++ "_" ++ kind.word

def routineDiagnostic (kind : Sql.RoutineKind) (tag : Tag) : Diagnostic :=
  match Naming.routineName tag with
  | .error fault => fault.diagnostic
  | .ok _ => ⟨.info, "Generate " ++ kind.word ++ " DDL for " ++ tag.name, some tag.name⟩

def createRoutineLines (kind : Sql.RoutineKind) (name : String) (tag : Tag) : List PlacedLine :=
  [.blank, .blank, .ofStatement (.createRoutine kind name), .ofText tag.value]

/-- A routine with a name that can be used. -/
structure NamedRoutine where
  name : String
  tag : Tag
deriving Repr

def namedRoutines (tags : List Tag) : List NamedRoutine :=
  tags.filterMap fun tag => (Naming.routineName tag).toOption.map fun name => ⟨name, tag⟩

/-- Generates the scripts of the routines of a kind; the number of routines. -/
def routines (options : Options) (kind : Sql.RoutineKind) (dataModel : DataModel)
    (modelName : String) : Plan Nat := do
  let pair ← .ofExcept (ScriptPair.empty options)
  let tags := dataModel.tags.pointingAt (routineMarker options kind)
  let named := namedRoutines tags
  .emit (tags.map fun tag => .report (routineDiagnostic kind tag))
  let pair ← .ofExcept (pair.extend
    (named.flatMap fun routine => createRoutineLines kind routine.name routine.tag)
    (named.map fun routine => .ofStatement (.dropRoutine kind routine.name)))
  pair.writeIfAny options (routineStem modelName kind)
  return named.length

end Generation
end ErdSql
