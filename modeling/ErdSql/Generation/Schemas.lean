import ErdSql.Generation.Routines
import ErdSql.Generation.Tables

/-!
# Data models and schemas

Each data model gives its routines, and its tables in a schema.  A data model whose schema has
no name that can be used gives its routines only.  Schemas other than the public one are
created once each, in a pair of scripts for the whole project, where the first data model of a
schema names and describes it.
-/

namespace ErdSql
namespace Generation

def schemaStem : String := "schema"

/-- The schemas created so far, and their scripts. -/
structure SchemaScripts where
  names : List String := []
  pair : ScriptPair
deriving Repr

/-- The lines that create the schema of a data model. -/
def schemaLines (options : Options) (dataModel : DataModel) (schema : String) :
    List PlacedLine :=
  [.ofText ("-- Schema for: " ++ dataModel.name),
    .ofStatement (.createSchema schema options.owner)] ++
    (if dataModel.documentation = "" then []
      else [.blank, .ofStatement (.comment .schema schema dataModel.documentation)]) ++
    [.blank]

/-- With the schema of a data model, unless it is there already or is the public one. -/
def SchemaScripts.add (scripts : SchemaScripts) (options : Options) (dataModel : DataModel)
    (schema : String) : Except Sql.BuildFault SchemaScripts :=
  if schema = Naming.publicSchema || scripts.names.contains schema then
    .ok scripts
  else
    match scripts.pair.extend (schemaLines options dataModel schema)
        [.ofStatement (.dropSchema schema)] with
    | .error fault => .error fault
    | .ok pair => .ok ⟨scripts.names ++ [schema], pair⟩

/-- A data model as generated: its step, and its schema if that has a usable name. -/
structure DataModelRun where
  step : StepResult
  schema : Option String

def dataModelStepName (dataModel : DataModel) : String :=
  "data_model:" ++ dataModel.name

/-- Generates the routines and the tables of a data model. -/
def dataModel (options : Options) (index : Index) (dataModel : DataModel) :
    Plan DataModelRun := do
  let modelName := Naming.normalize dataModel.name
  let functions ← routines options .function dataModel modelName
  let procedures ← routines options .procedure dataModel modelName
  let routineCounts :=
    [("functions", Json.ofNat functions), ("procedures", Json.ofNat procedures)]
  match Naming.schemaName dataModel.toElement with
  | .error fault =>
      .emit [.report fault.diagnostic]
      return {
        step := {
          name := dataModelStepName dataModel
          status := .skipped
          message := "Invalid schema name, tables not generated"
          details := routineCounts }
        schema := none }
  | .ok schema =>
      let tables ← TableSetting.tables ⟨options, index, schema, modelName⟩ dataModel
      return {
        step := {
          name := dataModelStepName dataModel
          status := .success
          message := "Generated " ++ toString tables ++ " tables in schema " ++ schema
          details :=
            [("schema", .string schema), ("tables", .ofNat tables)] ++ routineCounts }
        schema := some schema }

/-- The schemas and the steps of the data models gone through so far. -/
structure SchemaRun where
  scripts : SchemaScripts
  steps : List StepResult := []

def dataModels (options : Options) (index : Index) :
    SchemaRun → List DataModel → Plan SchemaRun
  | run, [] => pure run
  | run, model :: rest => do
      let generated ← (dataModel options index model).within { dataModel := some model.name }
      let scripts ← match generated.schema with
        | some schema => .ofExcept (run.scripts.add options model schema)
        | none => pure run.scripts
      dataModels options index ⟨scripts, run.steps ++ [generated.step]⟩ rest

def schemaStep (names : List String) : StepResult :=
  { name := "schema"
    status := .success
    message := "Generated " ++ toString names.length ++ " schemas"
    details := [("schemas", .ofStrings names)] }

def noSchemaStep : StepResult :=
  { name := "schema", status := .skipped, message := "Only the public schema is used" }

/-- Writes the files of the schemas, if there are any. -/
def SchemaScripts.finish (scripts : SchemaScripts) (options : Options) : Plan StepResult :=
  if scripts.pair.create.hasContent then do
    scripts.pair.write options schemaStem
    return schemaStep scripts.names
  else
    pure noSchemaStep

/-- Generates all data models of a project and the schemas; the steps. -/
def schemas (options : Options) (project : Project) : Plan (List StepResult) := do
  let pair ← .ofExcept (ScriptPair.empty options)
  let run ← dataModels options (.ofProject project) ⟨{ pair := pair }, []⟩ project.dataModels
  let step ← run.scripts.finish options
  return run.steps ++ [step]

end Generation
end ErdSql
