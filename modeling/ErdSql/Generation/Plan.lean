import ErdSql.Table.Group

/-!
# Plans

A plan is what generation is going to do: a list of events, and a value or the fault that ends
it early.  Plans are made one after the other; a plan that ends early keeps the events before
its end.
-/

namespace ErdSql
namespace Generation

/-- Events, and a value unless they end early. -/
structure Plan (α : Type) where
  events : List Event
  outcome : Except Sql.BuildFault α

namespace Plan

variable {α β : Type}

/-- A value without events. -/
def pure (a : α) : Plan α :=
  ⟨[], .ok a⟩

/-- One plan after another that depends on its value. -/
def bind (plan : Plan α) (next : α → Plan β) : Plan β :=
  match plan.outcome with
  | .error fault => ⟨plan.events, .error fault⟩
  | .ok a => ⟨plan.events ++ (next a).events, (next a).outcome⟩

instance : Monad Plan where
  pure := pure
  bind := bind

/-- Events without a value. -/
def emit (events : List Event) : Plan Unit :=
  ⟨events, .ok ()⟩

/-- Something that may fail, without events. -/
def ofExcept (outcome : Except Sql.BuildFault α) : Plan α :=
  ⟨[], outcome⟩

def within (context : Log.Context) (plan : Plan α) : Plan α :=
  { plan with events := plan.events.map (Event.within context) }

def fault? (plan : Plan α) : Option Sql.BuildFault :=
  match plan.outcome with
  | .error fault => some fault
  | .ok _ => none

/-- Changes to a group of tables. -/
def ofEdits (group : Table.Group) (edits : List Table.Edit) : Plan Table.Group :=
  let run := group.run edits
  ⟨run.events,
    match run.fault with
    | some fault => .error fault
    | none => .ok run.group⟩

@[simp] theorem pure_eq (a : α) : (Pure.pure a : Plan α) = ⟨[], .ok a⟩ := rfl

@[simp] theorem bind_eq (plan : Plan α) (next : α → Plan β) :
    (plan >>= next) = plan.bind next := rfl

@[simp] theorem bind_ok (events : List Event) (a : α) (next : α → Plan β) :
    (Plan.mk events (.ok a)).bind next = ⟨events ++ (next a).events, (next a).outcome⟩ := rfl

@[simp] theorem bind_error (events : List Event) (fault : Sql.BuildFault)
    (next : α → Plan β) :
    (Plan.mk events (.error fault)).bind next = ⟨events, .error fault⟩ := rfl

/-- What a plan does first stays first, whatever follows. -/
theorem events_prefix_bind (plan : Plan α) (next : α → Plan β) :
    plan.events <+: (plan.bind next).events := by
  unfold bind
  split
  · exact List.prefix_refl _
  · exact List.prefix_append ..

end Plan
end Generation
end ErdSql
