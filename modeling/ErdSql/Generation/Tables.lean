import ErdSql.Generation.Artifact
import ErdSql.Table.Layout

/-!
# Tables of a data model

The tables of one diagram share a pair of scripts, and so do the tables that are in no
diagram.  In each pair the foreign keys come after all tables.
-/

namespace ErdSql
namespace Generation

/-- What the tables of a data model are generated with. -/
structure TableSetting where
  options : Options
  index : Index
  schema : String
  modelName : String

namespace TableSetting

def diagramStem (setting : TableSetting) (diagram : Diagram) : String :=
  setting.modelName ++ "_" ++ Naming.normalize diagram.name

/-- The stem of the files of the tables that are in no diagram. -/
def looseStem (setting : TableSetting) : String :=
  setting.modelName ++ "_table"

/-- A group without tables, unless the indentation is at fault. -/
def emptyGroup (setting : TableSetting) : Plan Table.Group :=
  .ofExcept (setting.options.indentUnit.map .empty)

def entity (setting : TableSetting) (tablePrefix : String) (group : Table.Group)
    (entity : Entity) : Plan Table.Group := do
  .emit [progress ("Generate table DDL for " ++ entity.name) (some entity.name)]
  (Plan.ofEdits group
    (Table.entityEdits setting.options setting.index setting.schema tablePrefix entity)).within
    { entity := some entity.name }

def entities (setting : TableSetting) (tablePrefix : String) :
    Table.Group → List Entity → Plan Table.Group
  | group, [] => pure group
  | group, entity :: rest => do
      let group ← setting.entity tablePrefix group entity
      setting.entities tablePrefix group rest

/-- Writes the foreign keys and the files of a group; the number of its tables. -/
def finish (setting : TableSetting) (stem : String) (group : Table.Group) : Plan Nat := do
  let flushed := group.flush.1
  ScriptPair.writeIfAny ⟨flushed.create, flushed.drop⟩ setting.options stem
  return flushed.tables.length

/-- Generates the scripts of a diagram; the number of its tables. -/
def diagram (setting : TableSetting) (diagram : Diagram) : Plan Nat := do
  let group ← setting.emptyGroup
  let group ← (setting.entities (diagram.tags.valueOf "prefix") group
    diagram.entities).within { diagram := some diagram.name }
  setting.finish (setting.diagramStem diagram) group

/-- The group of the tables that are in no diagram, and the number of tables in diagrams. -/
structure Progress where
  loose : Table.Group
  inDiagrams : Nat := 0

/-- Goes through the members of a data model.  Diagrams are written on the way; entities that
are in no diagram are gathered. -/
def members (setting : TableSetting) : Progress → List Member → Plan Progress
  | progress, [] => pure progress
  | progress, .diagram diagram :: rest => do
      let count ← setting.diagram diagram
      setting.members { progress with inDiagrams := progress.inDiagrams + count } rest
  | progress, .entity entity :: rest => do
      let loose ← setting.entity "" progress.loose entity
      setting.members { progress with loose := loose } rest

/-- Generates the scripts of all tables of a data model; the number of tables. -/
def tables (setting : TableSetting) (dataModel : DataModel) : Plan Nat := do
  let group ← setting.emptyGroup
  let progress ← setting.members ⟨group, 0⟩ dataModel.members
  let loose ← setting.finish setting.looseStem progress.loose
  return progress.inDiagrams + loose

end TableSetting
end Generation
end ErdSql
