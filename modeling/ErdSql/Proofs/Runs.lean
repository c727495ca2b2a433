import ErdSql.Proofs.Deliveries
import ErdSql.Proofs.Manifest

/-!
# What runs leave behind

A run is a plan and its delivery.  It succeeds if neither of the two comes to a fault; its
scripts are those delivered, so they are always a beginning of the files of the project, and
all of them if the run succeeds.
-/

namespace ErdSql
namespace Generation

namespace Generator

variable {σ : Type} [Storage.Sink σ] (generator : Generator σ) (moment : Log.Moment)
  (project : Project)

/-- The plan that a run carries out. -/
def plan : Plan Unit :=
  projectPlan generator.options (Storage.Sink.location generator.sink) project

/-- What comes of the plan on the sink. -/
def delivery : Delivery σ :=
  deliver generator.sink (generator.plan project).events

/-- The failure that ends a run; one of the sink comes before one of the plan. -/
def failure? : Option Failure :=
  ((generator.delivery project).fault.map Failure.storage) <|>
    ((generator.plan project).fault?.map Failure.build)

/-- The events that are added because of a failure. -/
def afterFailure : List Event :=
  match generator.failure? project with
  | some failure => failureEvents project failure
  | none => []

theorem afterFailure_eq_elim :
    generator.afterFailure project =
      (generator.failure? project).elim [] (failureEvents project) := by
  unfold afterFailure
  cases generator.failure? project <;> rfl

theorem events_generateProject :
    (generator.generateProject moment project).events =
      (startMark project :: (generator.delivery project).done ++ generator.afterFailure project ++
        [endMark (generator.generateProject moment project).result]).map
          (Event.within { project := some project.name }) := by
  unfold generateProject
  rfl

/-- What looks neither at contexts nor at marks sees of a run what was delivered and what is
added because of a failure. -/
theorem filterMap_events {γ : Type} {view : Event → Option γ}
    (hcontext : ∀ (context : Log.Context) (event : Event),
      view (event.within context) = view event)
    (hmark : ∀ name data, view { action := .mark name data } = none) :
    (generator.generateProject moment project).events.filterMap view =
      (generator.delivery project).done.filterMap view ++
        (generator.afterFailure project).filterMap view := by
  have hstart : view (startMark project) = none := hmark _ _
  have hend : view (endMark (generator.generateProject moment project).result) = none :=
    hmark _ _
  rw [events_generateProject, Event.filterMap_map_within _ (hcontext _), List.filterMap_append,
    List.filterMap_append, List.filterMap_cons_none hstart, List.filterMap_cons_none hend,
    List.filterMap_nil, List.append_nil]

theorem scripts_afterFailure : Event.scripts (generator.afterFailure project) = [] := by
  unfold afterFailure
  cases generator.failure? project <;> rfl

theorem scripts_generateProject :
    Event.scripts (generator.generateProject moment project).events =
      Event.scripts (generator.delivery project).done := by
  have h : Event.scripts (generator.generateProject moment project).events =
      Event.scripts (generator.delivery project).done ++
        Event.scripts (generator.afterFailure project) :=
    filterMap_events generator moment project (fun _ _ => rfl) fun _ _ => rfl
  rw [h, scripts_afterFailure, List.append_nil]

theorem files_generateProject :
    Event.files (generator.generateProject moment project).events =
      Event.files (generator.delivery project).done := by
  rw [Event.files_eq_map_scripts, scripts_generateProject, ← Event.files_eq_map_scripts]

theorem files_result :
    (generator.generateProject moment project).result.files =
      (Event.files (generator.delivery project).done).map (·.1) := by
  have hfailure : Event.files (generator.afterFailure project) = [] := by
    rw [Event.files_eq_map_scripts, scripts_afterFailure, List.map_nil]
  change (Event.files ((generator.delivery project).done ++
    generator.afterFailure project)).map (·.1) = _
  rw [Event.files_append, hfailure, List.append_nil]

theorem files_result_eq_map_scripts :
    (generator.generateProject moment project).result.files =
      (Event.scripts (generator.generateProject moment project).events).map (·.1) := by
  rw [files_result, scripts_generateProject, Event.files_eq_map_scripts, List.map_map]
  rfl

theorem steps_result :
    (generator.generateProject moment project).result.steps =
      Event.steps (generator.delivery project).done ++
        Event.steps (generator.afterFailure project) :=
  Event.steps_append _ _

theorem success_iff :
    (generator.generateProject moment project).result.success = true ↔
      (generator.delivery project).fault = none ∧ (generator.plan project).fault? = none := by
  change (generator.failure? project).isNone = true ↔ _
  unfold failure?
  cases (generator.delivery project).fault <;> cases (generator.plan project).fault? <;> simp

/-- The scripts of a run are a beginning of the files of the project. -/
theorem scripts_isPrefix :
    Event.scripts (generator.generateProject moment project).events <+:
      projectFiles generator.options project := by
  rw [scripts_generateProject]
  have hdone := deliver_done_prefix generator.sink (generator.plan project).events
  exact (hdone.filterMap Event.script?).trans
    (shows_projectPlan generator.options _ project).isPrefix

theorem outcome_of_success
    (h : (generator.generateProject moment project).result.success = true) :
    (generator.plan project).outcome = .ok () := by
  obtain ⟨-, hplan⟩ := (success_iff generator moment project).1 h
  unfold Plan.fault? at hplan
  split at hplan
  · cases hplan
  · assumption

/-- The scripts of a run that succeeds are the files of the project. -/
theorem scripts_of_success
    (h : (generator.generateProject moment project).result.success = true) :
    Event.scripts (generator.generateProject moment project).events =
      projectFiles generator.options project := by
  obtain ⟨hfault, -⟩ := (success_iff generator moment project).1 h
  have hdone := deliver_done_of_fault_eq_none hfault
  rw [scripts_generateProject, delivery, hdone]
  exact (shows_projectPlan generator.options _ project).eq_of_ok
    (outcome_of_success generator moment project h)

/-- What looks neither at contexts nor at marks sees of a run that succeeds what it sees of the
plan. -/
theorem filterMap_events_of_success {γ : Type} {view : Event → Option γ}
    (hcontext : ∀ (context : Log.Context) (event : Event),
      view (event.within context) = view event)
    (hmark : ∀ name data, view { action := .mark name data } = none)
    (h : (generator.generateProject moment project).result.success = true) :
    (generator.generateProject moment project).events.filterMap view =
      (generator.plan project).events.filterMap view := by
  obtain ⟨hfault, hplan⟩ := (success_iff generator moment project).1 h
  have hafter : generator.afterFailure project = [] := by
    rw [afterFailure_eq_elim, failure?, hfault, hplan]
    rfl
  rw [filterMap_events generator moment project hcontext hmark, hafter, delivery,
    deliver_done_of_fault_eq_none hfault, List.filterMap_nil, List.append_nil]

theorem exists_indentUnit_of_success
    (h : (generator.generateProject moment project).result.success = true) :
    ∃ unit, generator.options.indentUnit = .ok unit :=
  (shows_projectPlan generator.options _ project).gives_of_ok
    (outcome_of_success generator moment project h)

/-- A project for which a run succeeds is generated on any sink that never fails. -/
theorem success_of_neverFails {τ : Type} [Storage.Sink τ] {other : Generator τ}
    (hoptions : other.options = generator.options) (hsink : Storage.NeverFails other.sink)
    (h : (generator.generateProject moment project).result.success = true)
    (moment' : Log.Moment) :
    (other.generateProject moment' project).result.success = true := by
  have hsame : SameOutput (other.plan project) (generator.plan project) := by
    unfold plan
    rw [hoptions]
    exact sameOutput_projectPlan _ _ _ _
  have hdelivered : other.delivery project = ⟨_, _, none⟩ :=
    deliver_of_neverFails hsink (other.plan project).events
  refine (success_iff other moment' project).2 ⟨?_, ?_⟩
  · rw [hdelivered]
  · rw [hsame.fault?]
    exact ((success_iff generator moment project).1 h).2

end Generator
end Generation
end ErdSql
