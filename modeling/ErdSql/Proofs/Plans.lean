import ErdSql.Generation.Plan

/-!
# What plans show

A view picks from the events of a plan what is looked at: the scripts written, the diagnostics
reported, the steps concluded.  A plan shows a list if its events give that list to the view
when the plan comes to its end, and a beginning of it when the plan ends early.  What plans
show adds up when they are made one after the other.
-/

namespace ErdSql

/-- A view that does not look at contexts sees the same events in any context. -/
theorem Event.filterMap_map_within {γ : Type} {view : Event → Option γ} (context : Log.Context)
    (hview : ∀ event, view (event.within context) = view event) (events : List Event) :
    (events.map (Event.within context)).filterMap view = events.filterMap view := by
  rw [List.filterMap_map]
  exact congrArg (events.filterMap ·) (funext hview)

namespace Generation
namespace Plan

variable {α β γ : Type} {view : Event → Option γ}

/-- The plan shows the list, or a beginning of it if it ends early; a value that it comes to
has the property. -/
def Shows (view : Event → Option γ) (plan : Plan α) (seen : List γ) (Gives : α → Prop) : Prop :=
  match plan.outcome with
  | .ok a => plan.events.filterMap view = seen ∧ Gives a
  | .error _ => plan.events.filterMap view <+: seen

theorem bind_outcome (plan : Plan α) (next : α → Plan β) :
    (plan.bind next).outcome = plan.outcome.bind fun a => (next a).outcome := by
  unfold bind
  cases plan.outcome <;> rfl

theorem bind_events_of_ok {plan : Plan α} {next : α → Plan β} {a : α}
    (h : plan.outcome = .ok a) : (plan.bind next).events = plan.events ++ (next a).events := by
  unfold bind
  rw [h]

@[simp] theorem within_outcome (context : Log.Context) (plan : Plan α) :
    (plan.within context).outcome = plan.outcome := rfl

@[simp] theorem within_events (context : Log.Context) (plan : Plan α) :
    (plan.within context).events = plan.events.map (Event.within context) := rfl

theorem shows_pure {Gives : α → Prop} {a : α} (h : Gives a) :
    Shows view (Plan.pure a) [] Gives :=
  ⟨rfl, h⟩

theorem shows_emit (events : List Event) :
    Shows view (emit events) (events.filterMap view) fun _ => True :=
  ⟨rfl, trivial⟩

theorem shows_ofExcept {outcome : Except Sql.BuildFault α} {Gives : α → Prop}
    (h : ∀ a, outcome = .ok a → Gives a) : Shows view (ofExcept outcome) [] Gives := by
  unfold Shows ofExcept
  cases outcome with
  | error fault => exact List.prefix_refl _
  | ok a => exact ⟨rfl, h a rfl⟩

/-- What two plans show one after the other.  The second list may not depend on the value of
the first plan. -/
theorem shows_bind {plan : Plan α} {next : α → Plan β} {first second : List γ}
    {Gives : α → Prop} {Gives' : β → Prop}
    (hplan : Shows view plan first Gives)
    (hnext : ∀ a, Gives a → Shows view (next a) second Gives') :
    Shows view (plan.bind next) (first ++ second) Gives' := by
  unfold Shows bind at *
  cases houtcome : plan.outcome with
  | error fault =>
      rw [houtcome] at hplan
      exact hplan.trans (List.prefix_append first second)
  | ok a =>
      rw [houtcome] at hplan
      obtain ⟨hseen, ha⟩ := hplan
      have hrest := hnext a ha
      simp only [List.filterMap_append, hseen]
      cases hlast : (next a).outcome with
      | error fault =>
          rw [hlast] at hrest
          exact (List.prefix_append_right_inj first).2 hrest
      | ok b =>
          rw [hlast] at hrest
          exact ⟨by rw [hrest.1], hrest.2⟩

theorem shows_bind_silent {plan : Plan α} {next : α → Plan β} {seen : List γ}
    {Gives : α → Prop} {Gives' : β → Prop} (hplan : Shows view plan [] Gives)
    (hnext : ∀ a, Gives a → Shows view (next a) seen Gives') :
    Shows view (plan.bind next) seen Gives' :=
  shows_bind hplan hnext

theorem shows_bind_last {plan : Plan α} {next : α → Plan β} {seen : List γ}
    {Gives : α → Prop} {Gives' : β → Prop} (hplan : Shows view plan seen Gives)
    (hnext : ∀ a, Gives a → Shows view (next a) [] Gives') :
    Shows view (plan.bind next) seen Gives' := by
  have h := shows_bind hplan hnext
  rwa [List.append_nil] at h

theorem shows_emit_silent {events : List Event} (h : events.filterMap view = []) :
    Shows view (emit events) [] fun _ => True := by
  rw [← h]
  exact shows_emit events

theorem shows_emit_map {f : β → Event} {bs : List β} (h : ∀ b ∈ bs, view (f b) = none) :
    Shows view (emit (bs.map f)) [] fun _ => True := by
  refine shows_emit_silent ?_
  rw [List.filterMap_map]
  exact List.filterMap_eq_nil_iff.2 h

/-- A view that does not look at contexts sees the same inside a context. -/
theorem shows_within {plan : Plan α} {seen : List γ} {Gives : α → Prop}
    (context : Log.Context) (hview : ∀ event : Event, view (event.within context) = view event)
    (h : Shows view plan seen Gives) : Shows view (plan.within context) seen Gives := by
  have hevents := Event.filterMap_map_within context hview plan.events
  unfold Shows at *
  simpa only [within_outcome, within_events, hevents] using h

theorem Shows.imp {plan : Plan α} {seen : List γ} {Gives Gives' : α → Prop}
    (h : Shows view plan seen Gives) (himp : ∀ a, Gives a → Gives' a) :
    Shows view plan seen Gives' := by
  unfold Shows at *
  cases houtcome : plan.outcome with
  | error fault =>
      rw [houtcome] at h
      exact h
  | ok a =>
      rw [houtcome] at h
      exact ⟨h.1, himp a h.2⟩

/-- What a view sees of what another view shows. -/
theorem Shows.comp {δ : Type} {plan : Plan α} {seen : List γ} {Gives : α → Prop}
    (h : Shows view plan seen Gives) (g : γ → Option δ) :
    Shows (fun event => (view event).bind g) plan (seen.filterMap g) Gives := by
  have hcomp : ∀ events : List Event,
      events.filterMap (fun event => (view event).bind g) =
        (events.filterMap view).filterMap g := fun events => List.filterMap_filterMap.symm
  unfold Shows at *
  cases houtcome : plan.outcome with
  | error fault =>
      rw [houtcome] at h
      simp only [hcomp]
      exact h.filterMap g
  | ok a =>
      rw [houtcome] at h
      simp only [hcomp]
      exact ⟨by rw [h.1], h.2⟩

theorem Shows.isPrefix {plan : Plan α} {seen : List γ} {Gives : α → Prop}
    (h : Shows view plan seen Gives) : plan.events.filterMap view <+: seen := by
  unfold Shows at h
  split at h
  · exact h.1 ▸ List.prefix_refl _
  · exact h

theorem Shows.eq_of_ok {plan : Plan α} {seen : List γ} {Gives : α → Prop} {a : α}
    (h : Shows view plan seen Gives) (ha : plan.outcome = .ok a) :
    plan.events.filterMap view = seen := by
  unfold Shows at h
  rw [ha] at h
  exact h.1

theorem Shows.gives_of_ok {plan : Plan α} {seen : List γ} {Gives : α → Prop} {a : α}
    (h : Shows view plan seen Gives) (ha : plan.outcome = .ok a) : Gives a := by
  unfold Shows at h
  rw [ha] at h
  exact h.2

end Plan
end Generation
end ErdSql
