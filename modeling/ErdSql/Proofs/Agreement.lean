import ErdSql.Proofs.Plans

/-!
# Plans that agree

Two plans agree in a view if their events give the view the same list and if they come to the
same fault or to the same value.  Plans that agree stay so whatever plans that agree come after
them.  A plan is restricted to events of a class if it has no others, whether it ends early or
not.
-/

namespace ErdSql
namespace Generation
namespace Plan

variable {α β γ : Type} {view : Event → Option γ}

/-- The plans show the same and come to the same end. -/
structure Agree (view : Event → Option γ) (left right : Plan α) : Prop where
  seen : left.events.filterMap view = right.events.filterMap view
  outcome : left.outcome = right.outcome

theorem Agree.refl (plan : Plan α) : Agree view plan plan :=
  ⟨rfl, rfl⟩

theorem Agree.trans {first second third : Plan α} (h : Agree view first second)
    (h' : Agree view second third) : Agree view first third :=
  ⟨h.seen.trans h'.seen, h.outcome.trans h'.outcome⟩

/-- What agrees in a view agrees in all that can be told from it. -/
theorem Agree.comp {δ : Type} {left right : Plan α} (h : Agree view left right)
    (g : γ → Option δ) : Agree (fun event => (view event).bind g) left right := by
  refine ⟨?_, h.outcome⟩
  have hcomp : ∀ events : List Event, events.filterMap (fun event => (view event).bind g) =
      (events.filterMap view).filterMap g := fun _ => List.filterMap_filterMap.symm
  rw [hcomp, hcomp, h.seen]

theorem agree_bind {left right : Plan α} {next next' : α → Plan β} (h : Agree view left right)
    (hnext : ∀ a, left.outcome = .ok a → Agree view (next a) (next' a)) :
    Agree view (left.bind next) (right.bind next') := by
  obtain ⟨hseen, houtcome⟩ := h
  cases hleft : left.outcome with
  | error fault =>
      have hright := houtcome.symm.trans hleft
      unfold bind
      rw [hleft, hright]
      exact ⟨hseen, rfl⟩
  | ok a =>
      have hright := houtcome.symm.trans hleft
      obtain ⟨hrest, hend⟩ := hnext a hleft
      constructor
      · rw [bind_events_of_ok hleft, bind_events_of_ok hright, List.filterMap_append,
          List.filterMap_append, hseen, hrest]
      · rw [bind_outcome, bind_outcome, hleft, hright]
        exact hend

/-- A plan that shows nothing and keeps the value may be left out. -/
theorem agree_bind_left {plan : Plan α} {a : α} {next : α → Plan β} {right : Plan β}
    (h : Agree view plan (.pure a)) (hnext : Agree view (next a) right) :
    Agree view (plan.bind next) right := by
  have hrest : ∀ b, plan.outcome = .ok b → Agree view (next b) right := by
    intro b hb
    obtain rfl : b = a := Except.ok.inj (hb.symm.trans h.outcome)
    exact hnext
  have hbind := agree_bind h hrest
  exact hbind

theorem agree_emit {events events' : List Event}
    (h : events.filterMap view = events'.filterMap view) :
    Agree view (emit events) (emit events') :=
  ⟨h, rfl⟩

theorem agree_within {left right : Plan α} (context : Log.Context)
    (hview : ∀ event : Event, view (event.within context) = view event)
    (h : Agree view left right) : Agree view (left.within context) (right.within context) := by
  refine ⟨?_, h.outcome⟩
  rw [within_events, within_events, Event.filterMap_map_within context hview,
    Event.filterMap_map_within context hview, h.seen]

/-- All events of the plan are of the class. -/
def Only (p : Event → Prop) (plan : Plan α) : Prop :=
  ∀ event ∈ plan.events, p event

section Only

variable {p : Event → Prop}

theorem only_pure (a : α) : Only p (Plan.pure a) :=
  fun _ h => absurd h List.not_mem_nil

theorem only_emit {events : List Event} (h : ∀ event ∈ events, p event) : Only p (emit events) :=
  h

theorem only_ofExcept (outcome : Except Sql.BuildFault α) : Only p (ofExcept outcome) :=
  fun _ h => absurd h List.not_mem_nil

theorem only_bind {plan : Plan α} {next : α → Plan β} (h : Only p plan)
    (hnext : ∀ a, Only p (next a)) : Only p (plan.bind next) := by
  unfold bind
  cases plan.outcome with
  | error fault => exact h
  | ok a => exact List.forall_mem_append.2 ⟨h, hnext a⟩

theorem only_within {plan : Plan α} (context : Log.Context)
    (hcontext : ∀ event : Event, p event → p (event.within context)) (h : Only p plan) :
    Only p (plan.within context) := by
  intro event hevent
  obtain ⟨inner, hinner, rfl⟩ := List.mem_map.1 hevent
  exact hcontext inner (h inner hinner)

/-- What sees nothing of the class sees nothing of the plan. -/
theorem Only.filterMap_eq_nil {plan : Plan α} (h : Only p plan)
    (hview : ∀ event, p event → view event = none) : plan.events.filterMap view = [] :=
  List.filterMap_eq_nil_iff.2 fun event hevent => hview event (h event hevent)

/-- What sees nothing of what follows a plan sees what the plan shows. -/
theorem filterMap_bind {plan : Plan α} {next : α → Plan β} (hnext : ∀ a, Only p (next a))
    (hview : ∀ event, p event → view event = none) :
    (plan.bind next).events.filterMap view = plan.events.filterMap view := by
  cases houtcome : plan.outcome with
  | error fault =>
      unfold bind
      rw [houtcome]
  | ok a =>
      rw [bind_events_of_ok houtcome, List.filterMap_append, (hnext a).filterMap_eq_nil hview,
        List.append_nil]

end Only

end Plan
end Generation
end ErdSql
