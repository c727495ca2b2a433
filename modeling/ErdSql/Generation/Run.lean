import ErdSql.Generation.Database
import ErdSql.Generation.Delivery
import ErdSql.Generation.Result
import ErdSql.Generation.Schemas

/-!
# Runs

A run generates all scripts of a project: first the database, then the data models one after
the other, then the schemas.  A text without a literal or a file that cannot be written ends the
run; files written before stay.  All that a run shows follows from the events that happened:
its files, steps, diagnostics, log records, and the tag that it may add to the project.
-/

namespace ErdSql
namespace Generation

/-- Why a run ended early. -/
inductive Failure where
  | build (fault : Sql.BuildFault)
  | storage (fault : Storage.Fault)
deriving DecidableEq, Repr

namespace Failure

def message : Failure → String
  | build fault => fault.message
  | storage fault => fault.message

def typeName : Failure → String
  | build fault => fault.typeName
  | storage fault => fault.typeName

def cause (failure : Failure) : Log.Cause :=
  ⟨failure.typeName, failure.message⟩

end Failure

/-- The step of the database, where its scripts have been written. -/
def databaseStep : StepResult :=
  { name := "database", status := .success }

/-- The step of the database, where its name cannot be used. -/
def noDatabaseStep : StepResult :=
  { name := "database", status := .skipped, message := "Invalid database name" }

/-- All that a run does between its marks in the log, if nothing fails. -/
def projectPlan (options : Options) (location : String) (project : Project) : Plan Unit := do
  if ← database options project then
    .emit [progress "Database creation files completed.", .conclude databaseStep]
  else
    .emit [.conclude noDatabaseStep]
  let steps ← schemas options project
  .emit (steps.map .conclude)
  .emit [progress ("Project DDL files generated in " ++ location)]

def failureMessage (failure : Failure) : String :=
  "Project generation failed: " ++ failure.message

def failureStep (failure : Failure) : StepResult :=
  { name := "generate", status := .failed, error := some failure.message }

def failureEvents (project : Project) (failure : Failure) : List Event :=
  [{ action := .note .error loggerName ("Project generation failed for " ++ project.name)
      (some failure.cause) },
    .report ⟨.error, failureMessage failure, none⟩,
    .conclude (failureStep failure)]

/-- A run: its result, what happened, and the sink afterwards. -/
structure Run (σ : Type) where
  result : Result
  events : List Event
  sink : σ

/-- What runs share: the options, the sink, and the diagnostics kept from earlier runs; they
are missing where diagnostics are not kept at all. -/
structure Generator (σ : Type) where
  options : Options := {}
  sink : σ
  history : Option (List Diagnostic) := some []

namespace Generator

variable {σ : Type} [Storage.Sink σ]

/-- The warnings that are kept after the given events. -/
def keptWarnings (generator : Generator σ) (events : List Event) : List String :=
  match generator.history with
  | some earlier => Diagnostic.warnings (earlier ++ Event.diagnostics events)
  | none => []

def after (generator : Generator σ) (run : Run σ) : Generator σ :=
  { generator with
    sink := run.sink
    history := generator.history.map fun earlier => earlier ++ Event.diagnostics run.events }

def noProjectMessage : String :=
  "No project found, database DDL generator expects a main project"

def refuse (generator : Generator σ) (moment : Log.Moment) : Run σ where
  result :=
    { outputPath := Storage.Sink.location generator.sink
      timestamp := moment.precise
      success := false
      steps := [{ name := "database", status := .failed, error := some noProjectMessage }]
      errors := [noProjectMessage] }
  events := [.report ⟨.error, noProjectMessage, none⟩]
  sink := generator.sink

def startMark (project : Project) : Event :=
  { action := .mark "ddl_generation_started" [("project", .string project.name)] }

def endMark (result : Result) : Event :=
  { action := .mark "ddl_generation_completed"
      [("success", .bool result.success), ("files", .ofNat result.files.length)] }

def generateProject (generator : Generator σ) (moment : Log.Moment) (project : Project) :
    Run σ :=
  let location := Storage.Sink.location generator.sink
  let plan := projectPlan generator.options location project
  let delivery := deliver generator.sink plan.events
  let failure :=
    (delivery.fault.map Failure.storage) <|> (plan.fault?.map Failure.build)
  let events := delivery.done ++
    match failure with
    | some failure => failureEvents project failure
    | none => []
  let result : Result :=
    { outputPath := location
      timestamp := moment.precise
      success := failure.isNone
      steps := Event.steps events
      files := (Event.files events).map (·.1)
      errors := (failure.map failureMessage).toList
      warnings := generator.keptWarnings events }
  { result := result
    events := (startMark project :: events ++ [endMark result]).map
      (Event.within { project := some project.name })
    sink := delivery.sink }

/-- Generates the scripts of the root of a model, which should be a project. -/
def generate (generator : Generator σ) (moment : Log.Moment) (root : Option Node) : Run σ :=
  match root with
  | some (.project project) => generator.generateProject moment project
  | _ => generator.refuse moment

end Generator
end Generation

/-- The project after the given events, which may have given it a tag. -/
def Project.after (project : Project) (events : List Event) : Project :=
  { project with tags := project.tags ++ Event.assignedTags events }

end ErdSql
