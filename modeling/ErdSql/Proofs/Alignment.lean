import ErdSql.Proofs.Deliveries
import ErdSql.Proofs.References
import ErdSql.Proofs.Plans

/-!
# Aligned plans

Two plans are aligned if the second does all that the first does, except that its scripts may be
others at the same paths, and that it may report more warnings.  Aligned plans make the same
steps, and on a sink that fails for paths and not for texts they come equally far.
-/

namespace ErdSql

/-- The second list has the events of the first, with other scripts at the same paths and with
more warnings. -/
inductive Aligned : List Event → List Event → Prop
  | nil : Aligned [] []
  | same (event : Event) {left right : List Event} :
      Aligned left right → Aligned (event :: left) (event :: right)
  | script (context : Log.Context) (path : String) (script script' : Sql.Script)
      {left right : List Event} :
      Aligned left right →
        Aligned (⟨context, .write path script⟩ :: left) (⟨context, .write path script'⟩ :: right)
  | warning {event : Event} (h : event.isWarning = true) {left right : List Event} :
      Aligned left right → Aligned left (event :: right)

namespace Aligned

theorem refl (events : List Event) : Aligned events events := by
  induction events with
  | nil => exact nil
  | cons event events ih => exact same event ih

theorem append {left right left' right' : List Event} (h : Aligned left right)
    (h' : Aligned left' right') : Aligned (left ++ left') (right ++ right') := by
  induction h with
  | nil => exact h'
  | same event _ ih => exact same event ih
  | script context path script script' _ ih => exact .script context path script script' ih
  | warning hwarning _ ih => exact warning hwarning ih

theorem append_left {warnings left right : List Event}
    (hwarnings : ∀ event ∈ warnings, event.isWarning = true) (h : Aligned left right) :
    Aligned left (warnings ++ right) := by
  induction warnings with
  | nil => exact h
  | cons event warnings ih =>
      refine warning (hwarnings event (List.mem_cons_self ..)) (ih ?_)
      intro other hother
      exact hwarnings other (List.mem_cons_of_mem _ hother)

theorem within {left right : List Event} (h : Aligned left right) (context : Log.Context) :
    Aligned (left.map (Event.within context)) (right.map (Event.within context)) := by
  induction h with
  | nil => exact nil
  | same event _ ih => exact same _ ih
  | script _ path script script' _ ih => exact .script _ path script script' ih
  | @warning event hwarning left right _ ih =>
      have hwithin : (event.within context).isWarning = true := hwarning
      exact warning hwithin ih

theorem script?_of_isWarning {event : Event} (h : event.isWarning = true) :
    event.script? = none :=
  Event.script?_of_isTalk (Event.isTalk_of_isWarning h)

/-- A view that sees neither the texts of scripts nor warnings sees the same. -/
theorem filterMap_eq {γ : Type} {view : Event → Option γ} {left right : List Event}
    (hscript : ∀ context path script script',
      view ⟨context, .write path script⟩ = view ⟨context, .write path script'⟩)
    (hwarning : ∀ event : Event, event.isWarning = true → view event = none)
    (h : Aligned left right) : left.filterMap view = right.filterMap view := by
  induction h with
  | nil => rfl
  | same event _ ih => rw [List.filterMap_cons, List.filterMap_cons, ih]
  | script context path script script' _ ih =>
      rw [List.filterMap_cons, List.filterMap_cons, ih, hscript context path script script']
  | @warning event hevent left right _ ih =>
      rw [List.filterMap_cons_none (hwarning event hevent), ih]

theorem steps {left right : List Event} (h : Aligned left right) :
    Event.steps left = Event.steps right :=
  h.filterMap_eq (fun _ _ _ _ => rfl) fun _ hwarning =>
    Event.step?_of_isTalk (Event.isTalk_of_isWarning hwarning)

theorem paths {left right : List Event} (h : Aligned left right) :
    (Event.scripts left).map (·.1) = (Event.scripts right).map (·.1) := by
  unfold Event.scripts
  rw [List.map_filterMap, List.map_filterMap]
  refine h.filterMap_eq (fun _ _ _ _ => rfl) fun event hwarning => ?_
  rw [script?_of_isWarning hwarning]
  rfl

theorem diagnostics_sublist {left right : List Event} (h : Aligned left right) :
    (Event.diagnostics left).Sublist (Event.diagnostics right) := by
  unfold Event.diagnostics
  induction h with
  | nil => exact List.Sublist.refl _
  | same event _ ih =>
      rw [List.filterMap_cons, List.filterMap_cons]
      cases event.diagnostic? with
      | none => exact ih
      | some d => exact ih.cons_cons d
  | script context path script script' _ ih => exact ih
  | @warning event _ left right _ ih =>
      rw [List.filterMap_cons]
      cases event.diagnostic? with
      | none => exact ih
      | some d => exact ih.cons d

theorem diagnostics_filter {left right : List Event} (h : Aligned left right) :
    (Event.diagnostics left).filter (·.severity ≠ .warning) =
      (Event.diagnostics right).filter (·.severity ≠ .warning) := by
  unfold Event.diagnostics
  rw [List.filter_filterMap, List.filter_filterMap]
  refine h.filterMap_eq (fun _ _ _ _ => rfl) fun event hwarning => ?_
  cases hreport : event.diagnostic? with
  | none => rfl
  | some d =>
      have hseverity := Event.severity_of_isWarning hwarning hreport
      simp [hseverity]

end Aligned

namespace Generation

namespace Plan

variable {α β : Type}

/-- Aligned plans that come to the same fault or to values that are related. -/
structure Similar (left right : Plan α) (Rel : α → α → Prop) : Prop where
  events : Aligned left.events right.events
  outcome : (∃ fault, left.outcome = .error fault ∧ right.outcome = .error fault) ∨
    ∃ a b, left.outcome = .ok a ∧ right.outcome = .ok b ∧ Rel a b

theorem similar_refl (plan : Plan α) : Similar plan plan Eq := by
  refine ⟨Aligned.refl _, ?_⟩
  cases houtcome : plan.outcome with
  | error fault => exact Or.inl ⟨fault, rfl, rfl⟩
  | ok a => exact Or.inr ⟨a, a, rfl, rfl, rfl⟩

theorem similar_pure {Rel : α → α → Prop} {a b : α} (h : Rel a b) :
    Similar (Plan.pure a) (Plan.pure b) Rel :=
  ⟨Aligned.nil, Or.inr ⟨a, b, rfl, rfl, h⟩⟩

theorem similar_bind {left right : Plan α} {Rel : α → α → Prop} {Rel' : β → β → Prop}
    {next next' : α → Plan β} (h : Similar left right Rel)
    (hnext : ∀ a b, Rel a b → Similar (next a) (next' b) Rel') :
    Similar (left.bind next) (right.bind next') Rel' := by
  obtain ⟨hevents, ⟨fault, hleft, hright⟩ | ⟨a, b, hleft, hright, hrel⟩⟩ := h
  · have hbind : ∀ {plan : Plan α} {next : α → Plan β}, plan.outcome = .error fault →
        plan.bind next = ⟨plan.events, .error fault⟩ := by
      intro plan next hplan
      unfold bind
      rw [hplan]
    rw [hbind hleft, hbind hright]
    exact ⟨hevents, Or.inl ⟨fault, rfl, rfl⟩⟩
  · obtain ⟨hrest, houtcome⟩ := hnext a b hrel
    constructor
    · rw [bind_events_of_ok hleft, bind_events_of_ok hright]
      exact hevents.append hrest
    · rw [bind_outcome, bind_outcome, hleft, hright]
      exact houtcome

theorem similar_bind_eq {left right : Plan α} {Rel : β → β → Prop} {next next' : α → Plan β}
    (h : Similar left right Eq) (hnext : ∀ a, Similar (next a) (next' a) Rel) :
    Similar (left.bind next) (right.bind next') Rel := by
  refine similar_bind h ?_
  rintro a b rfl
  exact hnext a

theorem similar_within {left right : Plan α} {Rel : α → α → Prop} (context : Log.Context)
    (h : Similar left right Rel) : Similar (left.within context) (right.within context) Rel :=
  ⟨h.events.within context, h.outcome⟩

theorem Similar.fault? {left right : Plan α} {Rel : α → α → Prop} (h : Similar left right Rel) :
    left.fault? = right.fault? := by
  unfold Plan.fault?
  obtain ⟨-, ⟨fault, hleft, hright⟩ | ⟨a, b, hleft, hright, -⟩⟩ := h
  · rw [hleft, hright]
  · rw [hleft, hright]

end Plan

section Deliver

open Storage

variable {σ : Type} [Sink σ]

/-- Two lists of events come equally far on two sinks. -/
structure ComeEquallyFar (sink sink' : σ) (left right : List Event) : Prop where
  done : Aligned (deliver sink left).done (deliver sink' right).done
  fault : (deliver sink left).fault = (deliver sink' right).fault
  paths : (attempts sink left).map (·.1) = (attempts sink' right).map (·.1)

/-- Scripts written to the same path come equally far if what comes after them does. -/
theorem comeEquallyFar_cons {sink : σ} (hsink : FailsByPath sink)
    {writes writes' : List (String × String)} (hpaths : writes.map (·.1) = writes'.map (·.1))
    {event event' : Event} {path : String} {script script' : Sql.Script}
    (hscript : event.script? = some (path, script))
    (hscript' : event'.script? = some (path, script')) {left right : List Event}
    (hcons : ∀ {left right}, Aligned left right → Aligned (event :: left) (event' :: right))
    (hrest : ComeEquallyFar (written sink (writes ++ [(path, script.text)]))
      (written sink (writes' ++ [(path, script'.text)])) left right) :
    ComeEquallyFar (written sink writes) (written sink writes') (event :: left)
      (event' :: right) := by
  have hfault := hsink writes writes' hpaths path script.text script'.text
  have hfile := file?_of_script? hscript
  have hfile' := file?_of_script? hscript'
  have hnext : written sink (writes ++ [(path, script.text)]) =
      (Sink.write (written sink writes) path script.text).1 := written_append ..
  have hnext' : written sink (writes' ++ [(path, script'.text)]) =
      (Sink.write (written sink writes') path script'.text).1 := written_append ..
  rw [hnext, hnext'] at hrest
  obtain ⟨hdone, hend, hattempts⟩ := hrest
  cases hwrite : (Sink.write (written sink writes) path script.text).2 with
  | none =>
      rw [hwrite] at hfault
      constructor
      · rw [deliver_cons_of_written hfile hwrite, deliver_cons_of_written hfile' hfault.symm]
        exact hcons hdone
      · rw [deliver_cons_of_written hfile hwrite, deliver_cons_of_written hfile' hfault.symm]
        exact hend
      · rw [attempts_cons_of_written hscript hwrite,
          attempts_cons_of_written hscript' hfault.symm, List.map_cons, List.map_cons, hattempts]
  | some fault =>
      rw [hwrite] at hfault
      constructor
      · rw [deliver_cons_of_fault hfile hwrite, deliver_cons_of_fault hfile' hfault.symm]
        exact Aligned.nil
      · rw [deliver_cons_of_fault hfile hwrite, deliver_cons_of_fault hfile' hfault.symm]
      · rw [attempts_cons_of_fault hscript hwrite, attempts_cons_of_fault hscript' hfault.symm]
        rfl

/-- Aligned events come equally far on a sink that fails by path. -/
theorem comeEquallyFar_of_aligned {sink : σ} (hsink : FailsByPath sink) {left right : List Event}
    (h : Aligned left right) {writes writes' : List (String × String)}
    (hpaths : writes.map (·.1) = writes'.map (·.1)) :
    ComeEquallyFar (written sink writes) (written sink writes') left right := by
  have hlater : ∀ {writes writes' : List (String × String)} (path text text' : String),
      writes.map (·.1) = writes'.map (·.1) →
        (writes ++ [(path, text)]).map (·.1) = (writes' ++ [(path, text')]).map (·.1) := by
    intro writes writes' path text text' hpaths
    rw [List.map_append, List.map_append, hpaths]
    rfl
  -- the writes so far are the invariant: their paths stay equal, so the next write fails on
  -- both sinks or on neither
  induction h generalizing writes writes' with
  | nil => exact ⟨Aligned.nil, rfl, rfl⟩
  | same event haligned ih =>
      cases hscript : event.script? with
      | none =>
          obtain ⟨hdone, hend, hattempts⟩ := ih hpaths
          have hfile := file?_of_script?_eq_none hscript
          constructor
          · rw [deliver_cons_of_file?_eq_none hfile, deliver_cons_of_file?_eq_none hfile]
            exact Aligned.same event hdone
          · rw [deliver_cons_of_file?_eq_none hfile, deliver_cons_of_file?_eq_none hfile]
            exact hend
          · rw [attempts_cons_of_none hscript, attempts_cons_of_none hscript]
            exact hattempts
      | some file =>
          obtain ⟨path, script⟩ := file
          exact comeEquallyFar_cons hsink hpaths hscript hscript (Aligned.same event)
            (ih (hlater path script.text script.text hpaths))
  | script context path script script' haligned ih =>
      exact comeEquallyFar_cons hsink hpaths rfl rfl (Aligned.script context path script script')
        (ih (hlater path script.text script'.text hpaths))
  | @warning event hwarning left right haligned ih =>
      obtain ⟨hdone, hend, hattempts⟩ := ih hpaths
      have hscript := Aligned.script?_of_isWarning hwarning
      have hfile := file?_of_script?_eq_none hscript
      constructor
      · rw [deliver_cons_of_file?_eq_none hfile]
        exact Aligned.warning hwarning hdone
      · rw [deliver_cons_of_file?_eq_none hfile]
        exact hend
      · rw [attempts_cons_of_none hscript]
        exact hattempts

end Deliver

end Generation
end ErdSql
