import ErdSql.Generation.Delivery

/-!
# Deliveries to sinks

A sink that never fails takes all that is delivered.  A sink one of whose writes fails takes
what comes before that write and nothing after it.
-/

namespace ErdSql
namespace Storage

section

variable {σ : Type} [Sink σ]

/-- The sink after writes, whatever becomes of them. -/
def written (sink : σ) (writes : List (String × String)) : σ :=
  writes.foldl (fun s w => (Sink.write s w.1 w.2).1) sink

theorem written_append (sink : σ) (earlier later : List (String × String)) :
    written sink (earlier ++ later) = written (written sink earlier) later :=
  List.foldl_append

/-- No write fails, whatever has been written before. -/
def NeverFails (sink : σ) : Prop :=
  ∀ (writes : List (String × String)) (path text : String),
    (Sink.write (written sink writes) path text).2 = none

/-- The write with the given number fails, and none before it.  The first write has the number
one. -/
def FailsAt (sink : σ) (number : Nat) : Prop :=
  ∀ (writes : List (String × String)) (path text : String), writes.length < number →
    ((Sink.write (written sink writes) path text).2.isSome ↔ writes.length + 1 = number)

/-- Whether a write fails depends on the paths written, and not on the texts. -/
def FailsByPath (sink : σ) : Prop :=
  ∀ writes writes' : List (String × String), writes.map (·.1) = writes'.map (·.1) →
    ∀ path text text' : String,
      (Sink.write (written sink writes) path text).2 =
        (Sink.write (written sink writes') path text').2

/-- What two sinks have in common as long as the same paths are written to them. -/
theorem written_of_write {τ : Type} [Sink τ] {R : σ → τ → Prop}
    (hwrite : ∀ sink sink' path text text', R sink sink' →
      R (Sink.write sink path text).1 (Sink.write sink' path text').1)
    {sink : σ} {sink' : τ} (h : R sink sink') {writes writes' : List (String × String)}
    (hpaths : writes.map (·.1) = writes'.map (·.1)) :
    R (written sink writes) (written sink' writes') := by
  induction writes generalizing sink sink' writes' with
  | nil =>
      obtain rfl := List.map_eq_nil_iff.1 hpaths.symm
      exact h
  | cons w writes ih =>
      cases writes' with
      | nil => cases hpaths
      | cons w' writes' =>
          rw [List.map_cons, List.map_cons, List.cons.injEq] at hpaths
          obtain ⟨path, text⟩ := w
          obtain ⟨path', text'⟩ := w'
          obtain rfl : path = path' := hpaths.1
          exact ih (hwrite sink sink' path text text' h) hpaths.2

theorem NeverFails.failsByPath {sink : σ} (h : NeverFails sink) : FailsByPath sink := by
  intro writes writes' _ path text text'
  rw [h writes path text, h writes' path text']

theorem NeverFails.write {sink : σ} (h : NeverFails sink) (path text : String) :
    NeverFails (Sink.write sink path text).1 := by
  intro writes path' text'
  exact h ((path, text) :: writes) path' text'

theorem NeverFails.written {sink : σ} (h : NeverFails sink) (writes : List (String × String)) :
    NeverFails (written sink writes) := by
  intro later path text
  rw [← written_append]
  exact h (writes ++ later) path text

theorem FailsAt.isSome_write {sink : σ} (h : FailsAt sink 1) (path text : String) :
    (Sink.write sink path text).2.isSome = true :=
  (h [] path text (by simp)).2 rfl

theorem FailsAt.write_eq_none {sink : σ} {n : Nat} (h : FailsAt sink (n + 2))
    (path text : String) : (Sink.write sink path text).2 = none := by
  have hsome := h [] path text (by simp)
  rw [List.length_nil] at hsome
  cases hfault : (Sink.write sink path text).2 with
  | none => rfl
  | some fault =>
      have hnumber := hsome.1 (Option.isSome_iff_exists.2 ⟨fault, hfault⟩)
      omega

theorem FailsAt.write {sink : σ} {n : Nat} (h : FailsAt sink (n + 2)) (path text : String) :
    FailsAt (Sink.write sink path text).1 (n + 1) := by
  intro writes path' text' hlength
  have hnext := h ((path, text) :: writes) path' text' (by rw [List.length_cons]; omega)
  rw [List.length_cons] at hnext
  constructor
  · intro hsome
    have hnumber := hnext.1 hsome
    omega
  · intro hnumber
    exact hnext.2 (by omega)

end

theorem neverFails_memory (memory : Memory) : NeverFails memory :=
  fun _ _ _ => rfl

/-- Writes leave the sink where it is. -/
class LawfulSink (σ : Type) [Sink σ] : Prop where
  location_write (sink : σ) (path text : String) :
    Sink.location (Sink.write sink path text).1 = Sink.location sink

instance : LawfulSink Memory where
  location_write _ _ _ := rfl

instance : LawfulSink Local where
  location_write sink path text := by
    change (Local.write sink path text).1.base.text = sink.base.text
    unfold Local.write
    split <;> rfl

instance {σ : Type} [Sink σ] [LawfulSink σ] : LawfulSink (Faulty σ) where
  location_write faulty path text := by
    change Sink.location (Faulty.write faulty path text).1.sink = Sink.location faulty.sink
    unfold Faulty.write
    simp only
    split
    · rfl
    · exact LawfulSink.location_write faulty.sink path text

theorem location_written {σ : Type} [Sink σ] [LawfulSink σ] (sink : σ)
    (writes : List (String × String)) :
    Sink.location (written sink writes) = Sink.location sink := by
  induction writes generalizing sink with
  | nil => rfl
  | cons w writes ih => exact (ih _).trans (LawfulSink.location_write sink w.1 w.2)

section Faulty

variable {σ : Type} [Sink σ]

theorem attempts_written (faulty : Faulty σ) (writes : List (String × String)) :
    (written faulty writes).attempts = faulty.attempts + writes.length ∧
      (written faulty writes).failing = faulty.failing := by
  induction writes generalizing faulty with
  | nil => exact ⟨rfl, rfl⟩
  | cons w writes ih =>
      obtain ⟨hattempts, hfailing⟩ := ih (Faulty.write faulty w.1 w.2).1
      have hstep : (Faulty.write faulty w.1 w.2).1.attempts = faulty.attempts + 1 ∧
          (Faulty.write faulty w.1 w.2).1.failing = faulty.failing := by
        unfold Faulty.write
        simp only
        split <;> exact ⟨rfl, rfl⟩
      rw [hstep.1] at hattempts
      rw [hstep.2] at hfailing
      refine ⟨?_, hfailing⟩
      rw [List.length_cons]
      exact hattempts.trans (by omega)

/-- Up to the write that fails, the inner sink takes all writes. -/
theorem sink_written {faulty : Faulty σ} {writes : List (String × String)}
    (h : faulty.attempts + writes.length < faulty.failing) :
    (written faulty writes).sink = written faulty.sink writes := by
  induction writes generalizing faulty with
  | nil => rfl
  | cons w writes ih =>
      rw [List.length_cons] at h
      have hstep : Faulty.write faulty w.1 w.2 =
          ({ faulty with
              attempts := faulty.attempts + 1
              sink := (Sink.write faulty.sink w.1 w.2).1 },
            (Sink.write faulty.sink w.1 w.2).2) := by
        unfold Faulty.write
        simp only
        rw [if_neg (by omega)]
      have hnext : (Faulty.write faulty w.1 w.2).1.attempts + writes.length <
          (Faulty.write faulty w.1 w.2).1.failing := by
        rw [hstep]
        change faulty.attempts + 1 + writes.length < faulty.failing
        omega
      have hrest := ih hnext
      rw [hstep] at hrest
      change (written (Faulty.write faulty w.1 w.2).1 writes).sink = _
      rw [hstep]
      exact hrest

/-- A sink made to fail at a write fails there if it works otherwise. -/
theorem failsAt_faulty {faulty : Faulty σ} (h : NeverFails faulty.sink)
    (hattempts : faulty.attempts = 0) : FailsAt faulty faulty.failing := by
  intro writes path text hlength
  have hsink : (written faulty writes).sink = written faulty.sink writes :=
    sink_written (by omega)
  obtain ⟨hcount, hfailing⟩ := attempts_written faulty writes
  change (Faulty.write (written faulty writes) path text).2.isSome ↔ _
  unfold Faulty.write
  simp only [hcount, hfailing, hsink, hattempts]
  by_cases hnumber : 0 + writes.length + 1 = faulty.failing
  · rw [if_pos hnumber]
    exact ⟨fun _ => by omega, fun _ => rfl⟩
  · rw [if_neg hnumber, h writes path text]
    constructor
    · nofun
    · omega

/-- Two sinks that are made to fail at the same write, over sinks to which the same paths have
been written. -/
structure SameCourse (sink : σ) (left right : Faulty σ) : Prop where
  attempts : left.attempts = right.attempts
  failing : left.failing = right.failing
  fault : left.fault = right.fault
  inner : ∃ writes writes', writes.map (·.1) = writes'.map (·.1) ∧
    left.sink = written sink writes ∧ right.sink = written sink writes'

theorem SameCourse.write {sink : σ} {left right : Faulty σ} (h : SameCourse sink left right)
    (path text text' : String) :
    SameCourse sink (Faulty.write left path text).1 (Faulty.write right path text').1 := by
  obtain ⟨hattempts, hfailing, hfault, writes, writes', hpaths, hleft, hright⟩ := h
  unfold Faulty.write
  simp only [hattempts, hfailing]
  by_cases hnumber : right.attempts + 1 = right.failing
  · rw [if_pos hnumber, if_pos hnumber]
    exact ⟨rfl, rfl, hfault, writes, writes', hpaths, hleft, hright⟩
  · rw [if_neg hnumber, if_neg hnumber]
    refine ⟨rfl, rfl, hfault, writes ++ [(path, text)], writes' ++ [(path, text')], ?_, ?_, ?_⟩
    · simp only [List.map_append, hpaths, List.map_cons, List.map_nil]
    · simp only [hleft, written_append]
      rfl
    · simp only [hright, written_append]
      rfl

/-- A sink made to fail at a write fails by path if it does so otherwise. -/
theorem failsByPath_faulty {faulty : Faulty σ} (h : FailsByPath faulty.sink) :
    FailsByPath faulty := by
  intro writes writes' hpaths path text text'
  have hstart : SameCourse faulty.sink faulty faulty := ⟨rfl, rfl, rfl, [], [], rfl, rfl, rfl⟩
  obtain ⟨hattempts, hfailing, hfault, us, us', hus, hleft, hright⟩ :=
    written_of_write (R := SameCourse faulty.sink)
      (fun _ _ path text text' h => h.write path text text') hstart hpaths
  change (Faulty.write (written faulty writes) path text).2 =
    (Faulty.write (written faulty writes') path text').2
  unfold Faulty.write
  simp only [hattempts, hfailing, hleft, hright]
  split
  · rw [hfault]
  · exact h us us' hus path text text'

end Faulty
end Storage

namespace Generation

open Storage

section Steps

variable {σ : Type} [Sink σ] {sink : σ} {event : Event} {path text : String}

theorem deliver_cons_of_file?_eq_none (hfile : event.file? = none) (events : List Event) :
    deliver sink (event :: events) =
      { deliver sink events with done := event :: (deliver sink events).done } := by
  rw [deliver, hfile]

theorem deliver_cons_of_written (hfile : event.file? = some (path, text))
    (hwrite : (Sink.write sink path text).2 = none) (events : List Event) :
    deliver sink (event :: events) =
      { deliver (Sink.write sink path text).1 events with
        done := event :: (deliver (Sink.write sink path text).1 events).done } := by
  rw [deliver, hfile]
  simp only
  cases hresult : Sink.write sink path text with
  | mk next fault =>
      rw [hresult] at hwrite
      cases hwrite
      rfl

theorem deliver_cons_of_fault {fault : Storage.Fault} (hfile : event.file? = some (path, text))
    (hwrite : (Sink.write sink path text).2 = some fault) (events : List Event) :
    deliver sink (event :: events) =
      ⟨[], (Sink.write sink path text).1, some fault⟩ := by
  rw [deliver, hfile]
  simp only
  cases hresult : Sink.write sink path text with
  | mk next fault =>
      rw [hresult] at hwrite
      cases hwrite
      rfl

end Steps

section Deliver

variable {σ : Type} [Sink σ]

theorem files_cons_of_none {event : Event} (h : event.file? = none) (events : List Event) :
    Event.files (event :: events) = Event.files events :=
  List.filterMap_cons_none h

theorem files_cons_of_some {event : Event} {file : String × String}
    (h : event.file? = some file) (events : List Event) :
    Event.files (event :: events) = file :: Event.files events :=
  List.filterMap_cons_some h

/-- On a sink that never fails, everything is delivered. -/
theorem deliver_of_neverFails {sink : σ} (h : NeverFails sink) (events : List Event) :
    deliver sink events = ⟨events, written sink (Event.files events), none⟩ := by
  induction events generalizing sink with
  | nil => rfl
  | cons event events ih =>
      cases hfile : event.file? with
      | none => rw [deliver_cons_of_file?_eq_none hfile, files_cons_of_none hfile, ih h]
      | some file =>
          obtain ⟨path, text⟩ := file
          have hwrite : (Sink.write sink path text).2 = none := h [] path text
          rw [deliver_cons_of_written hfile hwrite, files_cons_of_some hfile,
            ih (h.write path text)]
          rfl

theorem deliver_of_failsAt_of_le {sink : σ} {n : Nat} (h : FailsAt sink (n + 1))
    {events : List Event} (hcount : (Event.files events).length ≤ n) :
    deliver sink events = ⟨events, written sink (Event.files events), none⟩ := by
  induction events generalizing sink n with
  | nil => rfl
  | cons event events ih =>
      cases hfile : event.file? with
      | none =>
          rw [files_cons_of_none hfile] at hcount
          rw [deliver_cons_of_file?_eq_none hfile, files_cons_of_none hfile, ih h hcount]
      | some file =>
          obtain ⟨path, text⟩ := file
          rw [files_cons_of_some hfile, List.length_cons] at hcount
          obtain ⟨m, rfl⟩ : ∃ m, n = m + 1 := ⟨n - 1, by omega⟩
          have hwrite := h.write_eq_none path text
          rw [deliver_cons_of_written hfile hwrite, files_cons_of_some hfile,
            ih (h.write path text) (by omega)]
          rfl

/-- On a sink that fails at one of the writes, the writes before it are delivered and nothing
is written after it. -/
theorem deliver_of_failsAt_of_lt {sink : σ} {n : Nat} (h : FailsAt sink (n + 1))
    {events : List Event} (hcount : n < (Event.files events).length) :
    Event.files (deliver sink events).done = (Event.files events).take n ∧
      (deliver sink events).sink = written sink ((Event.files events).take (n + 1)) ∧
      (deliver sink events).fault.isSome = true := by
  induction events generalizing sink n with
  | nil => exact absurd hcount (Nat.not_lt_zero _)
  | cons event events ih =>
      cases hfile : event.file? with
      | none =>
          rw [files_cons_of_none hfile] at hcount
          obtain ⟨hdone, hsink, hfault⟩ := ih h hcount
          rw [deliver_cons_of_file?_eq_none hfile, files_cons_of_none hfile,
            files_cons_of_none hfile]
          exact ⟨hdone, hsink, hfault⟩
      | some file =>
          obtain ⟨path, text⟩ := file
          rw [files_cons_of_some hfile, List.length_cons] at hcount
          cases n with
          | zero =>
              -- this is the write that fails
              obtain ⟨fault, hwrite⟩ := Option.isSome_iff_exists.1 (h.isSome_write path text)
              rw [deliver_cons_of_fault hfile hwrite, files_cons_of_some hfile]
              exact ⟨rfl, rfl, rfl⟩
          | succ m =>
              have hwrite := h.write_eq_none path text
              obtain ⟨hdone, hsink, hfault⟩ := ih (h.write path text) (by omega)
              rw [deliver_cons_of_written hfile hwrite, files_cons_of_some hfile,
                files_cons_of_some hfile, hdone, hsink]
              exact ⟨rfl, rfl, hfault⟩

theorem deliver_of_failsAt {sink : σ} {n : Nat} (h : FailsAt sink (n + 1))
    (events : List Event) :
    Event.files (deliver sink events).done = (Event.files events).take n ∧
      (deliver sink events).sink = written sink ((Event.files events).take (n + 1)) := by
  by_cases hcount : n < (Event.files events).length
  · obtain ⟨hdone, hsink, -⟩ := deliver_of_failsAt_of_lt h hcount
    exact ⟨hdone, hsink⟩
  · rw [deliver_of_failsAt_of_le h (Nat.le_of_not_lt hcount), List.take_of_length_le (by omega),
      List.take_of_length_le (by omega)]
    exact ⟨rfl, rfl⟩

end Deliver

section Append

variable {σ : Type} [Sink σ] (sink : σ)

/-- After a fault nothing more is delivered. -/
theorem deliver_append_of_fault {earlier : List Event} {fault : Storage.Fault}
    (h : (deliver sink earlier).fault = some fault) (later : List Event) :
    deliver sink (earlier ++ later) = deliver sink earlier := by
  induction earlier generalizing sink with
  | nil => cases h
  | cons event earlier ih =>
      rw [List.cons_append]
      cases hfile : event.file? with
      | none =>
          rw [deliver_cons_of_file?_eq_none hfile] at h ⊢
          rw [ih sink h, deliver_cons_of_file?_eq_none hfile]
      | some file =>
          obtain ⟨path, text⟩ := file
          cases hwrite : (Sink.write sink path text).2 with
          | none =>
              rw [deliver_cons_of_written hfile hwrite] at h ⊢
              rw [ih _ h, deliver_cons_of_written hfile hwrite]
          | some fault =>
              rw [deliver_cons_of_fault hfile hwrite, deliver_cons_of_fault hfile hwrite]

theorem deliver_append {earlier : List Event} (h : (deliver sink earlier).fault = none)
    (later : List Event) :
    deliver sink (earlier ++ later) =
      { deliver (deliver sink earlier).sink later with
        done := (deliver sink earlier).done ++
          (deliver (deliver sink earlier).sink later).done } := by
  induction earlier generalizing sink with
  | nil => rfl
  | cons event earlier ih =>
      rw [List.cons_append]
      cases hfile : event.file? with
      | none =>
          rw [deliver_cons_of_file?_eq_none hfile] at h
          rw [deliver_cons_of_file?_eq_none hfile, deliver_cons_of_file?_eq_none hfile, ih sink h]
          rfl
      | some file =>
          obtain ⟨path, text⟩ := file
          cases hwrite : (Sink.write sink path text).2 with
          | none =>
              rw [deliver_cons_of_written hfile hwrite] at h
              rw [deliver_cons_of_written hfile hwrite, deliver_cons_of_written hfile hwrite,
                ih _ h]
              rfl
          | some fault =>
              rw [deliver_cons_of_fault hfile hwrite] at h
              cases h

/-- The sink does not look at contexts. -/
theorem deliver_map_within (context : Log.Context) (events : List Event) :
    deliver sink (events.map (Event.within context)) =
      { deliver sink events with
        done := (deliver sink events).done.map (Event.within context) } := by
  induction events generalizing sink with
  | nil => rfl
  | cons event events ih =>
      rw [List.map_cons]
      cases hfile : event.file? with
      | none =>
          have hwithin : (event.within context).file? = none := hfile
          rw [deliver_cons_of_file?_eq_none hfile, deliver_cons_of_file?_eq_none hwithin, ih sink]
          rfl
      | some file =>
          obtain ⟨path, text⟩ := file
          have hwithin : (event.within context).file? = some (path, text) := hfile
          cases hwrite : (Sink.write sink path text).2 with
          | none =>
              rw [deliver_cons_of_written hfile hwrite, deliver_cons_of_written hwithin hwrite,
                ih]
              rfl
          | some fault =>
              rw [deliver_cons_of_fault hfile hwrite, deliver_cons_of_fault hwithin hwrite]
              rfl

end Append

section Attempts

variable {σ : Type} [Sink σ]

/-- The scripts that a delivery hands to the sink, the one that fails included. -/
def attempts (sink : σ) : List Event → List (String × Sql.Script)
  | [] => []
  | event :: events =>
      match event.script? with
      | none => attempts sink events
      | some (path, script) =>
          match Sink.write sink path script.text with
          | (next, none) => (path, script) :: attempts next events
          | (_, some _) => [(path, script)]

theorem attempts_cons_of_none {sink : σ} {event : Event} (h : event.script? = none)
    (events : List Event) : attempts sink (event :: events) = attempts sink events := by
  rw [attempts, h]

theorem attempts_cons_of_written {sink : σ} {event : Event} {path : String}
    {script : Sql.Script} (h : event.script? = some (path, script))
    (hwrite : (Sink.write sink path script.text).2 = none) (events : List Event) :
    attempts sink (event :: events) =
      (path, script) :: attempts (Sink.write sink path script.text).1 events := by
  rw [attempts, h]
  simp only
  cases hresult : Sink.write sink path script.text with
  | mk next fault =>
      rw [hresult] at hwrite
      cases hwrite
      rfl

theorem attempts_cons_of_fault {sink : σ} {event : Event} {path : String}
    {script : Sql.Script} {fault : Storage.Fault} (h : event.script? = some (path, script))
    (hwrite : (Sink.write sink path script.text).2 = some fault) (events : List Event) :
    attempts sink (event :: events) = [(path, script)] := by
  rw [attempts, h]
  simp only
  cases hresult : Sink.write sink path script.text with
  | mk next fault =>
      rw [hresult] at hwrite
      cases hwrite
      rfl

theorem file?_of_script? {event : Event} {path : String} {script : Sql.Script}
    (h : event.script? = some (path, script)) : event.file? = some (path, script.text) := by
  unfold Event.file?
  rw [h]
  rfl

theorem file?_of_script?_eq_none {event : Event} (h : event.script? = none) :
    event.file? = none := by
  unfold Event.file?
  rw [h]
  rfl

theorem sink_deliver (sink : σ) (events : List Event) :
    (deliver sink events).sink =
      written sink ((attempts sink events).map fun (path, script) => (path, script.text)) := by
  induction events generalizing sink with
  | nil => rfl
  | cons event events ih =>
      cases hscript : event.script? with
      | none =>
          rw [deliver_cons_of_file?_eq_none (file?_of_script?_eq_none hscript),
            attempts_cons_of_none hscript]
          exact ih sink
      | some file =>
          obtain ⟨path, script⟩ := file
          have hfile := file?_of_script? hscript
          cases hwrite : (Sink.write sink path script.text).2 with
          | none =>
              rw [deliver_cons_of_written hfile hwrite, attempts_cons_of_written hscript hwrite]
              exact ih _
          | some fault =>
              rw [deliver_cons_of_fault hfile hwrite, attempts_cons_of_fault hscript hwrite]
              rfl

theorem attempts_of_fault_eq_none {sink : σ} {events : List Event}
    (h : (deliver sink events).fault = none) : attempts sink events = Event.scripts events := by
  unfold Event.scripts
  induction events generalizing sink with
  | nil => rfl
  | cons event events ih =>
      cases hscript : event.script? with
      | none =>
          rw [deliver_cons_of_file?_eq_none (file?_of_script?_eq_none hscript)] at h
          rw [attempts_cons_of_none hscript, List.filterMap_cons_none hscript, ih h]
      | some file =>
          obtain ⟨path, script⟩ := file
          have hfile := file?_of_script? hscript
          cases hwrite : (Sink.write sink path script.text).2 with
          | none =>
              rw [deliver_cons_of_written hfile hwrite] at h
              rw [attempts_cons_of_written hscript hwrite, List.filterMap_cons_some hscript, ih h]
          | some fault =>
              rw [deliver_cons_of_fault hfile hwrite] at h
              cases h

theorem attempts_isPrefix (sink : σ) (events : List Event) :
    attempts sink events <+: Event.scripts events := by
  unfold Event.scripts
  induction events generalizing sink with
  | nil => exact List.prefix_refl _
  | cons event events ih =>
      cases hscript : event.script? with
      | none =>
          rw [attempts_cons_of_none hscript, List.filterMap_cons_none hscript]
          exact ih sink
      | some file =>
          obtain ⟨path, script⟩ := file
          rw [List.filterMap_cons_some hscript]
          cases hwrite : (Sink.write sink path script.text).2 with
          | none =>
              rw [attempts_cons_of_written hscript hwrite]
              exact List.cons_prefix_cons.2 ⟨rfl, ih _⟩
          | some fault =>
              rw [attempts_cons_of_fault hscript hwrite]
              exact List.cons_prefix_cons.2 ⟨rfl, List.nil_prefix⟩

end Attempts

end Generation
end ErdSql
