import ErdSql.Json.Basic

/-!
# Steps

The parts of a run as they appear in its result, and how each of them ended.
-/

namespace ErdSql

/-- How a step ended. -/
inductive StepStatus where
  | success
  | failed
  | skipped
  /-- A word of a host application. -/
  | other (word : String)
deriving DecidableEq, Repr

namespace StepStatus

def name : StepStatus → String
  | success => "success"
  | failed => "failed"
  | skipped => "skipped"
  | other word => word

def ofName : String → StepStatus
  | "success" => success
  | "failed" => failed
  | "skipped" => skipped
  | word => other word

end StepStatus

/-- One part of a run. -/
structure StepResult where
  name : String
  status : StepStatus
  message : String := ""
  error : Option String := none
  details : List (String × Json) := []
deriving Repr, BEq

namespace StepResult

def toJson (step : StepResult) : Json :=
  .object [
    ("name", .string step.name),
    ("status", .string step.status.name),
    ("message", .string step.message),
    ("error", .ofString? step.error),
    ("details", .object step.details)]

def count (status : StepStatus) (steps : List StepResult) : Nat :=
  (steps.filter fun s => s.status = status).length

end StepResult
end ErdSql
