import ErdSql.Step

/-!
# Results

What a run of the generator reports when it is over.
-/

namespace ErdSql
namespace Generation

/-- The result of a run. -/
structure Result where
  outputPath : String
  timestamp : String
  success : Bool
  steps : List StepResult := []
  files : List String := []
  errors : List String := []
  warnings : List String := []
deriving Repr, BEq

/-- A result in numbers. -/
structure Summary where
  totalSteps : Nat
  successful : Nat
  failed : Nat
  skipped : Nat
  filesWritten : Nat
deriving DecidableEq, Repr

def Summary.toJson (summary : Summary) : Json :=
  .object [
    ("total_steps", .ofNat summary.totalSteps),
    ("successful", .ofNat summary.successful),
    ("failed", .ofNat summary.failed),
    ("skipped", .ofNat summary.skipped),
    ("files_written", .ofNat summary.filesWritten)]

namespace Result

def summary (result : Result) : Summary where
  totalSteps := result.steps.length
  successful := StepResult.count .success result.steps
  failed := StepResult.count .failed result.steps
  skipped := StepResult.count .skipped result.steps
  filesWritten := result.files.length

def toJson (result : Result) : Json :=
  .object [
    ("output_path", .string result.outputPath),
    ("timestamp", .string result.timestamp),
    ("success", .bool result.success),
    ("steps", .array (result.steps.map (·.toJson))),
    ("files", .ofStrings result.files),
    ("errors", .ofStrings result.errors),
    ("warnings", .ofStrings result.warnings),
    ("summary", result.summary.toJson)]

end Result
end Generation
end ErdSql
