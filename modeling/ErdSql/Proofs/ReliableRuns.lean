import ErdSql.Proofs.Assignments
import ErdSql.Proofs.FailingSinks

/-!
# Runs on sinks that never fail

On a sink that never fails a run delivers its whole plan, so that what it leaves behind is known
from the plan alone.  Plans with the same output lead to runs that write the same and have the
same result.
-/

namespace ErdSql
namespace Generation

open Storage

/-- The runs write the same texts to the same paths and have the same result, apart from the
warnings, the time and the place that it names. -/
structure Run.Matches {σ τ : Type} (run : Run σ) (other : Run τ) : Prop where
  writes : Event.files run.events = Event.files other.events
  files : run.result.files = other.result.files
  steps : run.result.steps = other.result.steps
  success : run.result.success = other.result.success
  errors : run.result.errors = other.result.errors

namespace Generator

variable {σ τ : Type} [Sink σ] [Sink τ]

section Single

variable {generator : Generator σ} (hsink : NeverFails generator.sink) (moment : Log.Moment)
  (project : Project)

include hsink

theorem delivery_of_neverFails :
    generator.delivery project =
      ⟨(generator.plan project).events,
        written generator.sink (Event.files (generator.plan project).events), none⟩ :=
  deliver_of_neverFails hsink _

theorem sink_of_neverFails :
    (generator.generateProject moment project).sink =
      written generator.sink (Event.files (generator.plan project).events) := by
  change (generator.delivery project).sink = _
  rw [delivery_of_neverFails hsink]

theorem failure?_of_neverFails :
    generator.failure? project = (generator.plan project).fault?.map .build := by
  refine failure?_of_fault_eq_none generator project ?_
  rw [delivery_of_neverFails hsink]

/-- What a run assigns and reports follows from what its plan does, and from its failure. -/
theorem filterMap_of_neverFails {γ : Type} {view : Event → Option γ}
    (hcontext : ∀ (context : Log.Context) (event : Event),
      view (event.within context) = view event)
    (hmark : ∀ name data, view { action := .mark name data } = none) :
    (generator.generateProject moment project).events.filterMap view =
      (generator.plan project).events.filterMap view ++
        (generator.afterFailure project).filterMap view := by
  rw [filterMap_events generator moment project hcontext hmark, delivery_of_neverFails hsink]

/-- The tag that a run gives its project. -/
theorem assignedTags_of_neverFails :
    Event.assignedTags (generator.generateProject moment project).events =
      (Naming.databaseName project.toElement).assignment.toList := by
  have hafter : (generator.afterFailure project).filterMap Event.assigned? = [] := by
    unfold afterFailure
    cases generator.failure? project <;> rfl
  unfold Event.assignedTags
  rw [filterMap_of_neverFails hsink moment project (fun _ _ => rfl) fun _ _ => rfl, hafter,
    List.append_nil]
  exact assignedTags_projectPlan generator.options project _

end Single

section Pairs

variable {generator : Generator σ} {other : Generator τ} {project project' : Project}

/-- Runs of plans with the same output match. -/
theorem matches_of_sameOutput (hsink : NeverFails generator.sink) (hsink' : NeverFails other.sink)
    (hsame : SameOutput (generator.plan project) (other.plan project'))
    (moment moment' : Log.Moment) :
    (generator.generateProject moment project).Matches
      (other.generateProject moment' project') := by
  have hdelivery := delivery_of_neverFails hsink project
  have hdelivery' := delivery_of_neverFails hsink' project'
  have hfailure : generator.failure? project = other.failure? project' := by
    rw [failure?_of_neverFails hsink, failure?_of_neverFails hsink', hsame.fault?]
  obtain ⟨hfiles, hsteps, hsuccess⟩ :
      _ ∧ _ ∧ (generator.generateProject moment project).result.success = _ :=
    result_of_delivered hsame (by rw [hdelivery]) (by rw [hdelivery']) (by rw [hdelivery])
      (by rw [hdelivery']) moment moment'
  refine ⟨?_, hfiles, hsteps, hsuccess, ?_⟩
  · rw [files_generateProject, files_generateProject, hdelivery, hdelivery', hsame.files]
  · change ((generator.failure? project).map failureMessage).toList =
      ((other.failure? project').map failureMessage).toList
    rw [hfailure]

/-- Runs report the same if their plans do and come to the same end. -/
theorem diagnostics_of_plans (hsink : NeverFails generator.sink)
    (hsink' : NeverFails other.sink)
    (hsame : Plan.Agree Event.diagnostic? (generator.plan project) (other.plan project'))
    (moment moment' : Log.Moment) :
    Event.diagnostics (generator.generateProject moment project).events =
      Event.diagnostics (other.generateProject moment' project').events := by
  have hfault : (generator.plan project).fault? = (other.plan project').fault? := by
    unfold Plan.fault?
    rw [hsame.outcome]
  have hafter : (generator.afterFailure project).filterMap Event.diagnostic? =
      (other.afterFailure project').filterMap Event.diagnostic? := by
    unfold afterFailure
    rw [failure?_of_neverFails hsink, failure?_of_neverFails hsink', hfault]
    cases (other.plan project').fault? <;> rfl
  unfold Event.diagnostics
  rw [filterMap_of_neverFails hsink moment project (fun _ _ => rfl) fun _ _ => rfl,
    filterMap_of_neverFails hsink' moment' project' (fun _ _ => rfl) fun _ _ => rfl,
    hsame.seen, hafter]

end Pairs

end Generator
end Generation
end ErdSql
