import ErdSql.Proofs.Agreement
import ErdSql.Proofs.Runs

/-!
# Contexts entered and left

A plan puts a context around the events of a part of it.  A program has a stack of contexts: a
piece of work enters a context, all that happens meanwhile is in the innermost one, and the
context is left again, however the work ends.  Here are pieces of work of that kind, and what
makes one of them do what a plan says.
-/

namespace ErdSql
namespace Log
namespace Context

/-- Whether nothing is set. -/
def isEmpty (context : Context) : Bool :=
  Field.all.all (fun field => (context.get field).isNone) && context.extra.isEmpty

theorem isEmpty_iff {context : Context} : context.isEmpty = true ↔ context = {} := by
  obtain ⟨project, dataModel, diagram, entity, correlationId, component, operation, extra⟩ :=
    context
  simp [isEmpty, Field.all, get, and_assoc]

@[simp] theorem empty_inside (outer : Context) : ({} : Context).inside outer = outer := by
  simp [inside, Json.overwrite]

/-- Contexts nest in either order of putting them together, as long as the innermost one has
named fields only. -/
theorem inside_inside {inner : Context} (h : inner.extra = []) (middle outer : Context) :
    (inner.inside middle).inside outer = inner.inside (middle.inside outer) := by
  simp [inside, h, Json.overwrite, Option.or_assoc]

end Context
end Log

namespace Event

/-- The event in the given context. -/
def placed (context : Log.Context) (event : Event) : Event :=
  { event with context := context }

theorem within_eq_placed {event : Event} (h : event.context = {}) (outer : Log.Context) :
    event.within outer = event.placed outer := by
  rw [within, h, Log.Context.empty_inside, placed]

theorem within_within {event : Event} (h : event.context.extra = [])
    (inner outer : Log.Context) :
    (event.within inner).within outer = event.within (inner.inside outer) := by
  simp only [within, Log.Context.inside_inside h]

end Event

namespace Generation

/-- Where a table comes from: its entity, the diagram of the entity if it is in one, and their
data model. -/
structure Site where
  dataModel : DataModel
  diagram : Option Diagram
  entity : Entity

/-- Work that is told apart from the rest of a run. -/
inductive Work where
  /-- Generating the table of an entity. -/
  | table (site : Site)
  /-- Dealing with the failure that has ended generation. -/
  | handler (failure : Failure)

/-- Something that has happened, and the work in the course of which it did. -/
structure Entry where
  event : Event
  work : Option Work := none

/-- What has come of a piece of work: what happened, the contexts and the sink afterwards, and a
value or the failure that ended it early. -/
structure Trail (σ α : Type) where
  entries : List Entry
  stack : Log.Stack
  sink : σ
  outcome : Except Failure α

/-- The failure that ended the work, if one did. -/
def Trail.failure? {σ α : Type} (trail : Trail σ α) : Option Failure :=
  match trail.outcome with
  | .error failure => some failure
  | .ok _ => none

/-- What has happened in work that was attempted, and the failure that ended it, if one did. -/
structure Attempt where
  done : List Event
  failure : Option Failure

/-- A piece of work, with the contexts and the sink that it finds. -/
def Course (σ α : Type) : Type :=
  Log.Stack → σ → Trail σ α

namespace Course

variable {σ α β : Type}

/-- A value, and nothing happens. -/
def pure (a : α) : Course σ α := fun stack sink =>
  ⟨[], stack, sink, .ok a⟩

/-- One piece of work after another that depends on its value; a failure ends both. -/
def bind (course : Course σ α) (next : α → Course σ β) : Course σ β := fun stack sink =>
  let first := course stack sink
  match first.outcome with
  | .error failure => ⟨first.entries, first.stack, first.sink, .error failure⟩
  | .ok a =>
      let second := next a first.stack first.sink
      { second with entries := first.entries ++ second.entries }

instance : Monad (Course σ) where
  pure := pure
  bind := bind

theorem bind_eq (course : Course σ α) (next : α → Course σ β) :
    (course >>= next) = course.bind next := rfl

/-- Work in a context within the innermost one.  The context is entered before the work and left
after it, whether the work comes to a value or to a failure. -/
def inContext (context : Log.Context) (course : Course σ α) : Course σ α := fun stack sink =>
  let trail := course (stack.push (context.inside stack.current)) sink
  { trail with stack := trail.stack.pop }

/-- The same work, told apart from the rest. -/
def during (work : Work) (course : Course σ α) : Course σ α := fun stack sink =>
  let trail := course stack sink
  { trail with entries := trail.entries.map fun entry => { entry with work := some work } }

/-- The same work, after which things go on even if it has failed. -/
def attempt (course : Course σ α) : Course σ Attempt := fun stack sink =>
  let trail := course stack sink
  { trail with outcome := .ok ⟨trail.entries.map (·.event), trail.failure?⟩ }

end Course

namespace Plan

variable {α : Type}

/-- How a plan ends when its delivery has ended with the given fault, or with none. -/
def ending (plan : Plan α) : Option Storage.Fault → Except Failure α
  | some fault => .error (.storage fault)
  | none => plan.outcome.mapError .build

end Plan

namespace Course

variable {σ α β : Type} [Storage.Sink σ]

/-- Does what a plan says, all of it in the innermost context. -/
def carryOut (plan : Plan α) : Course σ α := fun stack sink =>
  let delivery := deliver sink plan.events
  { entries := delivery.done.map fun event => { event := event.placed stack.current }
    stack := stack
    sink := delivery.sink
    outcome := plan.ending delivery.fault }

/-- The trail is that of a plan carried out within the contexts of the stack: the stack is as
before, what has happened is what the plan says, and each entry is as it should be in the
innermost context. -/
structure Tells (plan : Plan α) (place : Log.Context → Entry → Prop) (stack : Log.Stack)
    (sink : σ) (trail : Trail σ α) : Prop where
  stack_eq : trail.stack = stack
  events_eq : trail.entries.map (·.event) =
    (deliver sink plan.events).done.map (Event.within stack.current)
  sink_eq : trail.sink = (deliver sink plan.events).sink
  outcome_eq : trail.outcome = plan.ending (deliver sink plan.events).fault
  place_of_mem : ∀ entry ∈ trail.entries, place stack.current entry

/-- The work does what the plan says, whatever contexts and sink it finds. -/
structure Follows (course : Course σ α) (plan : Plan α) (place : Log.Context → Entry → Prop) :
    Prop where
  extra : plan.Only fun event => event.context.extra = []
  tells : ∀ stack sink, Tells plan place stack sink (course stack sink)

section Rules

variable {course : Course σ α} {plan : Plan α} {place place' : Log.Context → Entry → Prop}

theorem Follows.imp (h : Follows course plan place)
    (himp : ∀ context entry, place context entry → place' context entry) :
    Follows course plan place' := by
  refine ⟨h.extra, fun stack sink => ?_⟩
  have htells := h.tells stack sink
  exact { htells with
    place_of_mem := fun entry hentry => himp _ entry (htells.place_of_mem entry hentry) }

theorem follows_pure (a : α) : Follows (σ := σ) (pure a) (Plan.pure a) place :=
  ⟨Plan.only_pure a, fun _ _ => ⟨rfl, rfl, rfl, rfl, fun _ h => absurd h List.not_mem_nil⟩⟩

/-- A plan that sets no context of its own is carried out as it stands. -/
theorem follows_carryOut (hplan : plan.Only fun event => event.context = {})
    (hplace : ∀ event ∈ plan.events, ∀ context, place context { event := event.placed context }) :
    Follows (σ := σ) (carryOut plan) plan place := by
  refine ⟨fun event hevent => congrArg Log.Context.extra (hplan event hevent),
    fun stack sink => ?_⟩
  have hdone := deliver_done_prefix sink plan.events
  have hmem : ∀ event ∈ (deliver sink plan.events).done, event ∈ plan.events :=
    fun event hevent => hdone.subset hevent
  refine ⟨rfl, ?_, rfl, rfl, fun entry hentry => ?_⟩
  · rw [carryOut, List.map_map]
    exact List.map_congr_left fun event hevent =>
      (Event.within_eq_placed (hplan event (hmem event hevent)) _).symm
  · obtain ⟨event, hevent, rfl⟩ := List.mem_map.1 hentry
    exact hplace event (hmem event hevent) _

theorem Follows.bind {next : α → Course σ β} {nextPlan : α → Plan β}
    (h : Follows course plan place) (hnext : ∀ a, Follows (next a) (nextPlan a) place) :
    Follows (course.bind next) (plan.bind nextPlan) place := by
  refine ⟨Plan.only_bind h.extra fun a => (hnext a).extra, fun stack sink => ?_⟩
  obtain ⟨hstack, hevents, hsink, houtcome, hplace⟩ := h.tells stack sink
  cases hfault : (deliver sink plan.events).fault with
  | some fault =>
      -- what should follow is neither done nor delivered
      have hdeliver : deliver sink (plan.bind nextPlan).events = deliver sink plan.events := by
        obtain ⟨later, hlater⟩ := Plan.events_prefix_bind plan nextPlan
        rw [← hlater, deliver_append_of_fault sink hfault]
      rw [hfault] at houtcome
      have hbind : course.bind next stack sink = ⟨(course stack sink).entries,
          (course stack sink).stack, (course stack sink).sink, .error (.storage fault)⟩ := by
        simp only [Course.bind, houtcome, Plan.ending]
      rw [hbind]
      exact ⟨hstack, by rw [hdeliver]; exact hevents, by rw [hdeliver]; exact hsink,
        by rw [hdeliver, hfault]; rfl, hplace⟩
  | none =>
      rw [hfault, Plan.ending] at houtcome
      cases hplan : plan.outcome with
      | error fault =>
          have hevents' : plan.bind nextPlan = ⟨plan.events, .error fault⟩ := by
            simp only [Plan.bind, hplan]
          rw [hplan] at houtcome
          have hbind : course.bind next stack sink = ⟨(course stack sink).entries,
              (course stack sink).stack, (course stack sink).sink, .error (.build fault)⟩ := by
            simp only [Course.bind, houtcome, Except.mapError]
          rw [hbind, hevents']
          exact ⟨hstack, hevents, hsink, by rw [hfault]; rfl, hplace⟩
      | ok a =>
          rw [hplan] at houtcome
          obtain ⟨hstack', hnext', hsink', houtcome', hplace'⟩ :=
            (hnext a).tells stack (deliver sink plan.events).sink
          have hbind : course.bind next stack sink =
              { next a stack (deliver sink plan.events).sink with
                entries := (course stack sink).entries ++
                  (next a stack (deliver sink plan.events).sink).entries } := by
            simp only [Course.bind, houtcome, Except.mapError, hstack, hsink]
          have hplan' : plan.bind nextPlan =
              ⟨plan.events ++ (nextPlan a).events, (nextPlan a).outcome⟩ := by
            simp only [Plan.bind, hplan]
          rw [hbind, hplan']
          constructor
          · exact hstack'
          · rw [List.map_append, hevents, hnext', deliver_append sink hfault, List.map_append]
          · rw [deliver_append sink hfault]
            exact hsink'
          · rw [deliver_append sink hfault]
            exact houtcome'
          · exact List.forall_mem_append.2 ⟨hplace, hplace'⟩

/-- Entering a context and leaving it again does what a plan within that context says. -/
theorem Follows.inContext {context : Log.Context} (hcontext : context.extra = [])
    (h : Follows course plan place) :
    Follows (course.inContext context) (plan.within context)
      fun outer => place (context.inside outer) := by
  refine ⟨?_, fun stack sink => ?_⟩
  · refine Plan.only_within context (fun event hevent => ?_) h.extra
    simp [Event.within, Log.Context.inside, hevent, hcontext, Json.overwrite]
  · obtain ⟨hstack, hevents, hsink, houtcome, hplace⟩ :=
      h.tells (stack.push (context.inside stack.current)) sink
    have hdeliver := deliver_map_within sink context plan.events
    have hdone := deliver_done_prefix sink plan.events
    constructor
    · change (course _ sink).stack.pop = stack
      rw [hstack]
      rfl
    · -- one context put around another is the inner one within the outer
      rw [Plan.within_events, hdeliver, List.map_map]
      refine hevents.trans (List.map_congr_left fun event hevent => ?_)
      have hextra := h.extra event (hdone.subset hevent)
      exact (Event.within_within hextra context stack.current).symm
    · rw [Plan.within_events, hdeliver]
      exact hsink
    · rw [Plan.within_events, hdeliver]
      exact houtcome
    · exact hplace

/-- What is told apart is the same but for that. -/
theorem Follows.during {work : Work} (h : Follows course plan place)
    (hwork : ∀ context entry, place context entry →
      place' context { entry with work := some work }) :
    Follows (course.during work) plan place' := by
  refine ⟨h.extra, fun stack sink => ?_⟩
  obtain ⟨hstack, hevents, hsink, houtcome, hplace⟩ := h.tells stack sink
  refine ⟨hstack, ?_, hsink, houtcome, fun entry hentry => ?_⟩
  · rw [Course.during, List.map_map]
    exact hevents
  · obtain ⟨inner, hinner, rfl⟩ := List.mem_map.1 hentry
    exact hwork _ inner (hplace inner hinner)

end Rules

end Course
end Generation
end ErdSql
