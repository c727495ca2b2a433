import ErdSql.Proofs.Runs

/-!
# Sinks that fail

A run on a sink one of whose writes fails does what the run on a sink that never fails does,
up to that write; its last step tells of the failure.  If the run does not come to that write,
the two have the same result.
-/

namespace ErdSql
namespace Generation

open Storage

namespace Generator

section Everything

variable {σ : Type} [Sink σ] (generator : Generator σ) (project : Project)

theorem failure?_of_fault_eq_none (h : (generator.delivery project).fault = none) :
    generator.failure? project = (generator.plan project).fault?.map .build := by
  unfold failure?
  rw [h]
  rfl

theorem steps_failureEvents (failure : Failure) :
    Event.steps (failureEvents project failure) = [failureStep failure] :=
  rfl

theorem steps_afterFailure :
    Event.steps (generator.afterFailure project) =
      ((generator.failure? project).map failureStep).toList := by
  unfold afterFailure
  cases generator.failure? project <;> rfl

end Everything

/-- What a run on a sink whose write with the given number fails has of a run on a sink that
never fails. -/
structure CutsShort {σ τ : Type} [Sink τ] (number : Nat) (sink : τ) (full : Run σ)
    (cut : Run τ) : Prop where
  /-- The writes before the one that fails are made. -/
  writes : Event.files cut.events = (Event.files full.events).take (number - 1)
  /-- No write is attempted after the one that fails. -/
  attempts : cut.sink = written sink ((Event.files full.events).take number)
  files : cut.result.files = ((Event.files full.events).take (number - 1)).map (·.1)
  /-- If the write is attempted, the run fails, and its last step says so. -/
  failure : number ≤ (Event.files full.events).length →
    cut.result.success = false ∧ cut.result.errors.length = 1 ∧
      ∃ (steps : List StepResult) (last : StepResult),
        cut.result.steps = steps ++ [last] ∧ last.status = .failed ∧
          ∀ step ∈ steps, step.status ≠ .failed
  /-- If the write is not attempted, the runs do not differ. -/
  noFailure : (Event.files full.events).length < number →
    cut.result.files = full.result.files ∧ cut.result.steps = full.result.steps ∧
      cut.result.success = full.result.success

section Failing

variable {σ : Type} [Sink σ] {generator : Generator σ} {n : Nat}

/-- The failure of a run whose plan has enough files to come to the write that fails. -/
theorem failure?_of_failsAt (h : FailsAt generator.sink (n + 1)) {project : Project}
    (hcount : n < (Event.files (generator.plan project).events).length) :
    ∃ fault, generator.failure? project = some (.storage fault) := by
  obtain ⟨-, -, hfault⟩ := deliver_of_failsAt_of_lt h hcount
  obtain ⟨fault, hfault⟩ := Option.isSome_iff_exists.1 hfault
  refine ⟨fault, ?_⟩
  unfold failure? delivery
  rw [hfault]
  rfl

/-- A run that comes to the write that fails tells of it in its last step only. -/
theorem result_of_failsAt (h : FailsAt generator.sink (n + 1)) (moment : Log.Moment)
    {project : Project} (hcount : n < (Event.files (generator.plan project).events).length) :
    (generator.generateProject moment project).result.success = false ∧
      (generator.generateProject moment project).result.errors.length = 1 ∧
        ∃ (steps : List StepResult) (last : StepResult),
          (generator.generateProject moment project).result.steps = steps ++ [last] ∧
            last.status = .failed ∧ ∀ step ∈ steps, step.status ≠ .failed := by
  obtain ⟨fault, hfailure⟩ := failure?_of_failsAt h hcount
  have hafter : generator.afterFailure project = failureEvents project (.storage fault) := by
    rw [afterFailure_eq_elim, hfailure, Option.elim_some]
  refine ⟨?_, ?_, Event.steps (generator.delivery project).done, failureStep (.storage fault),
    ?_, rfl, ?_⟩
  · change (generator.failure? project).isNone = false
    rw [hfailure]
    rfl
  · change ((generator.failure? project).map failureMessage).toList.length = 1
    rw [hfailure]
    rfl
  · rw [steps_result, hafter, steps_failureEvents]
  · intro step hstep
    have hdone := deliver_done_prefix generator.sink (generator.plan project).events
    exact status_ne_failed_of_mem_steps_projectPlan
      ((hdone.filterMap Event.step?).subset hstep)

/-- Runs on which everything is delivered have the same result if their plans have the same
output. -/
theorem result_of_delivered {τ : Type} [Sink τ] {other : Generator τ} {project project' : Project}
    (hsame : SameOutput (generator.plan project) (other.plan project'))
    (hdone : (generator.delivery project).done = (generator.plan project).events)
    (hdone' : (other.delivery project').done = (other.plan project').events)
    (hfault : (generator.delivery project).fault = none)
    (hfault' : (other.delivery project').fault = none) (moment moment' : Log.Moment) :
    (generator.generateProject moment project).result.files =
        (other.generateProject moment' project').result.files ∧
      (generator.generateProject moment project).result.steps =
        (other.generateProject moment' project').result.steps ∧
      (generator.generateProject moment project).result.success =
        (other.generateProject moment' project').result.success := by
  have hfailure : generator.failure? project = other.failure? project' := by
    rw [failure?_of_fault_eq_none _ _ hfault, failure?_of_fault_eq_none _ _ hfault',
      hsame.fault?]
  refine ⟨?_, ?_, ?_⟩
  · rw [files_result, files_result, hdone, hdone', hsame.files]
  · rw [steps_result, steps_result, hdone, hdone', hsame.steps, steps_afterFailure,
      steps_afterFailure, hfailure]
  · change (generator.failure? project).isNone = (other.failure? project').isNone
    rw [hfailure]

end Failing

/-- A project that writes its database and one schema. -/
def salesProject : Project :=
  { name := "Shop", dataModels := [{ name := "Sales", tags := [.ofString "schema" "sales"] }] }

def newYear : Log.Moment :=
  { year := 2024, month := 1, day := 1, hour := 0, minute := 0, second := 0 }

def memoryGenerator : Generator Memory := { sink := {} }

def thirdFails : Generator (Faulty Memory) :=
  { sink := { sink := {}, failing := 3, fault := .full } }

end Generator

end Generation
end ErdSql
