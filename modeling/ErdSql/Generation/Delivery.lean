import ErdSql.Event
import ErdSql.Storage.Sink

/-!
# Delivery

Carrying out events: files go to a sink, one after the other.  The first file that cannot be
written ends the delivery; what comes after it does not happen.
-/

namespace ErdSql
namespace Generation

/-- What has come of a list of events: those that happened, the sink afterwards, and the fault
that ended the delivery early. -/
structure Delivery (σ : Type) where
  done : List Event
  sink : σ
  fault : Option Storage.Fault

/-- Carries out events on a sink. -/
def deliver {σ : Type} [Storage.Sink σ] (sink : σ) : List Event → Delivery σ
  | [] => ⟨[], sink, none⟩
  | event :: events =>
      match event.file? with
      | none =>
          let rest := deliver sink events
          { rest with done := event :: rest.done }
      | some (path, text) =>
          match Storage.Sink.write sink path text with
          | (sink, some fault) => ⟨[], sink, some fault⟩
          | (sink, none) =>
              let rest := deliver sink events
              { rest with done := event :: rest.done }

/-- What happened is a beginning of what should have happened. -/
theorem deliver_done_prefix {σ : Type} [Storage.Sink σ] (sink : σ) (events : List Event) :
    (deliver sink events).done <+: events := by
  induction events generalizing sink with
  | nil => exact List.prefix_refl _
  | cons event events ih =>
      unfold deliver
      split
      · exact List.cons_prefix_cons.2 ⟨rfl, ih _⟩
      · split
        · exact List.nil_prefix
        · exact List.cons_prefix_cons.2 ⟨rfl, ih _⟩

theorem deliver_done_of_fault_eq_none {σ : Type} [Storage.Sink σ] {sink : σ}
    {events : List Event} (h : (deliver sink events).fault = none) :
    (deliver sink events).done = events := by
  induction events generalizing sink with
  | nil => rfl
  | cons event events ih =>
      unfold deliver at h ⊢
      split at h
      · simp only at h ⊢
        rw [ih h]
      · split at h
        · simp at h
        · simp only at h ⊢
          rw [ih h]

end Generation
end ErdSql
