import ErdSql.Table.Group
import Mathlib.Data.List.TakeWhile

/-!
# Groups after changes

What becomes of a group of tables when changes are made to it.  As long as the foreign keys
have not been written, only a text without a literal can stop a list of changes; up to there
each change adds to one part of the group and leaves the others alone.
-/

namespace ErdSql

/-- The line at its level below the given one. -/
def Sql.ScriptItem.below (level : Nat) (item : Sql.ScriptItem) : Sql.ScriptItem :=
  { item with level := level + item.level }

@[simp] theorem Sql.ScriptItem.map_below_zero (items : List Sql.ScriptItem) :
    items.map (·.below 0) = items :=
  List.map_id'' (fun item => by simp [below]) items

namespace Table

namespace Edit

/-- Whether the change can be made to a group whose foreign keys have not been written. -/
def isWritable : Edit → Bool
  | .create _ line => line.isWritable
  | .drop line => line.isWritable
  | _ => true

/-- Why the change cannot be made to a group, whose foreign keys may have been written. -/
def fault? (flushed : Bool) : Edit → Option Sql.BuildFault
  | .create _ line => if line.isWritable then none else some .nullCharacter
  | .drop line => if line.isWritable then none else some .nullCharacter
  | .defer _ => if flushed then some .alreadyFlushed else none
  | _ => none

def isAccepted (flushed : Bool) (edit : Edit) : Bool :=
  (edit.fault? flushed).isNone

/-- A group whose foreign keys have not been written refuses only texts without a literal. -/
theorem fault?_false (edit : Edit) :
    edit.fault? false = if edit.isWritable then none else some .nullCharacter := by
  cases edit <;> rfl

theorem isAccepted_false : isAccepted false = isWritable := by
  funext edit
  rw [isAccepted, fault?_false]
  cases edit.isWritable <;> rfl

theorem findSome?_fault? (edits : List Edit) :
    edits.findSome? (fault? false) =
      if edits.all isWritable then none else some .nullCharacter := by
  induction edits with
  | nil => rfl
  | cons edit edits ih =>
      rw [List.findSome?_cons, fault?_false, ih, List.all_cons]
      cases edit.isWritable <;> rfl

theorem takeWhile_isWritable {edits : List Edit} (h : edits.all isWritable = true) :
    edits.takeWhile isWritable = edits :=
  List.takeWhile_eq_self_iff.2 (List.all_eq_true.1 h)

/-- The line that the change adds to the creating script. -/
def createItem? : Edit → Option Sql.ScriptItem
  | .create depth line => some ⟨depth, line⟩
  | _ => none

/-- The line that the change adds to the dropping script. -/
def dropItem? : Edit → Option Sql.ScriptItem
  | .drop line => some ⟨0, line⟩
  | _ => none

theorem eq_of_event?_eq_some {edit : Edit} {e : Event} (h : edit.event? = some e) :
    edit = .event e := by
  cases edit with
  | event found => rw [Option.some.inj h]
  | create depth line => cases h
  | drop line => cases h
  | defer key => cases h
  | complete table => cases h

/-- Changes can be made if the lines that they add can be written. -/
theorem all_isWritable_eq (edits : List Edit) :
    edits.all isWritable =
      ((edits.filterMap createItem?).all (·.line.isWritable) &&
        (edits.filterMap dropItem?).all (·.line.isWritable)) := by
  induction edits with
  | nil => rfl
  | cons edit edits ih =>
      rw [List.all_cons, ih, List.filterMap_cons, List.filterMap_cons]
      cases edit with
      | create depth line => simp [createItem?, dropItem?, isWritable, Bool.and_assoc]
      | drop line => simp [createItem?, dropItem?, isWritable, Bool.and_left_comm]
      | event e => rfl
      | defer key => rfl
      | complete table => rfl

/-- The foreign key that the change puts off. -/
def key? : Edit → Option Sql.Constraint
  | .defer key => some key
  | _ => none

/-- The table that the change counts as created. -/
def table? : Edit → Option String
  | .complete table => some table
  | _ => none

end Edit

namespace Group

/-- A group under construction: its foreign keys have not been written, and the next line of
each script stands at the outermost level. -/
structure IsOpen (group : Group) : Prop where
  flushed : group.flushed = false
  createLevel : group.create.level = 0
  dropLevel : group.drop.level = 0

theorem isOpen_empty (indentUnit : String) : (empty indentUnit).IsOpen :=
  ⟨rfl, rfl, rfl⟩

/-- The group with all that the changes add. -/
def extended (group : Group) (edits : List Edit) : Group :=
  { group with
    create := { group.create with
      items := group.create.items ++ edits.filterMap Edit.createItem? }
    drop := { group.drop with items := group.drop.items ++ edits.filterMap Edit.dropItem? }
    deferred := group.deferred ++ edits.filterMap Edit.key?
    tables := group.tables ++ edits.filterMap Edit.table? }

@[simp] theorem extended_nil (group : Group) : group.extended [] = group := by
  simp [extended]

theorem extended_append (group : Group) (earlier later : List Edit) :
    group.extended (earlier ++ later) = (group.extended earlier).extended later := by
  simp [extended, List.filterMap_append]

theorem IsOpen.extended {group : Group} (h : group.IsOpen) (edits : List Edit) :
    (group.extended edits).IsOpen :=
  ⟨h.flushed, h.createLevel, h.dropLevel⟩

/-- The group with all that the changes add, at the levels that its scripts have reached. -/
def grown (group : Group) (edits : List Edit) : Group :=
  { group with
    create := { group.create with
      items := group.create.items ++
        (edits.filterMap Edit.createItem?).map (·.below group.create.level) }
    drop := { group.drop with
      items := group.drop.items ++
        (edits.filterMap Edit.dropItem?).map (·.below group.drop.level) }
    deferred := group.deferred ++ edits.filterMap Edit.key?
    tables := group.tables ++ edits.filterMap Edit.table? }

@[simp] theorem grown_nil (group : Group) : group.grown [] = group := by
  simp [grown]

theorem grown_append (group : Group) (earlier later : List Edit) :
    group.grown (earlier ++ later) = (group.grown earlier).grown later := by
  simp [grown, List.filterMap_append]

@[simp] theorem flushed_grown (group : Group) (edits : List Edit) :
    (group.grown edits).flushed = group.flushed := rfl

theorem grown_of_isOpen {group : Group} (h : group.IsOpen) (edits : List Edit) :
    group.grown edits = group.extended edits := by
  simp [grown, Group.extended, h.createLevel, h.dropLevel]

theorem grown_singleton (group : Group) (edit : Edit) :
    group.grown [edit] =
      { group with
        create := { group.create with
          items := group.create.items ++
            edit.createItem?.toList.map (·.below group.create.level) }
        drop := { group.drop with
          items := group.drop.items ++ edit.dropItem?.toList.map (·.below group.drop.level) }
        deferred := group.deferred ++ edit.key?.toList
        tables := group.tables ++ edit.table?.toList } := by
  cases edit <;> rfl

/-- A change that can be made adds what it holds. -/
theorem apply_eq (group : Group) (edit : Edit) :
    group.apply edit =
      match edit.fault? group.flushed with
      | some fault => .error fault
      | none => .ok (group.grown [edit]) := by
  rw [grown_singleton]
  cases edit with
  | event e =>
      simp [apply, Edit.fault?, Edit.createItem?, Edit.dropItem?, Edit.key?, Edit.table?]
  | create depth line =>
      cases hline : line.isWritable <;>
        simp [apply, Sql.Script.write, Sql.Script.addAt, Sql.ScriptItem.below, Except.map, hline,
          Edit.fault?, Edit.createItem?, Edit.dropItem?, Edit.key?, Edit.table?]
  | drop line =>
      cases hline : line.isWritable <;>
        simp [apply, Sql.Script.write, Sql.Script.addAt, Sql.ScriptItem.below, Except.map, hline,
          Edit.fault?, Edit.createItem?, Edit.dropItem?, Edit.key?, Edit.table?]
  | defer key =>
      cases hflushed : group.flushed <;>
        simp [apply, defer, hflushed, Edit.fault?, Edit.createItem?, Edit.dropItem?, Edit.key?,
          Edit.table?]
  | complete table =>
      simp [apply, Edit.fault?, Edit.createItem?, Edit.dropItem?, Edit.key?, Edit.table?]

/-- The outcome of changes to any group: those before the first that cannot be made. -/
theorem run_eq_grown (group : Group) (edits : List Edit) :
    group.run edits =
      { group := group.grown (edits.takeWhile (Edit.isAccepted group.flushed))
        events := (edits.takeWhile (Edit.isAccepted group.flushed)).filterMap Edit.event?
        fault := edits.findSome? (Edit.fault? group.flushed) } := by
  induction edits generalizing group with
  | nil => simp [run]
  | cons edit edits ih =>
      cases hfault : edit.fault? group.flushed with
      | some fault => simp [run, apply_eq, hfault, Edit.isAccepted]
      | none =>
          have haccepted : edit.isAccepted group.flushed = true := by
            simp [Edit.isAccepted, hfault]
          have hrest := ih (group.grown [edit])
          rw [flushed_grown, ← grown_append] at hrest
          simp only [run, apply_eq, hfault, hrest, List.singleton_append,
            List.takeWhile_cons_of_pos haccepted, List.filterMap_cons,
            List.findSome?_cons_of_isNone (Option.isNone_iff_eq_none.2 hfault)]
          cases edit.event? <;> rfl

/-- The outcome of changes to an open group: those before the first that is not writable. -/
theorem run_eq {group : Group} (h : group.IsOpen) (edits : List Edit) :
    group.run edits =
      { group := group.extended (edits.takeWhile Edit.isWritable)
        events := (edits.takeWhile Edit.isWritable).filterMap Edit.event?
        fault := if edits.all Edit.isWritable then none else some .nullCharacter } := by
  rw [run_eq_grown, h.flushed, Edit.isAccepted_false, grown_of_isOpen h, Edit.findSome?_fault?]

/-- What happens while changes are made is in the changes. -/
theorem exists_edit_of_mem_events_run {group : Group} {edits : List Edit} {event : Event}
    (h : event ∈ (group.run edits).events) : ∃ edit ∈ edits, edit.event? = some event := by
  induction edits generalizing group with
  | nil => cases h
  | cons edit edits ih =>
      unfold run at h
      split at h
      · cases h
      · rcases List.mem_append.1 h with h | h
        · exact ⟨edit, List.mem_cons_self .., Option.mem_toList.1 h⟩
        · obtain ⟨later, hlater, hevent⟩ := ih h
          exact ⟨later, List.mem_cons_of_mem _ hlater, hevent⟩

theorem foldl_add (keys : List Sql.Constraint) (script : Sql.Script) :
    keys.foldl (fun s key => s.add (.statement key.statement)) script =
      { script with
        items := script.items ++
          keys.map fun key => ⟨script.level, .statement key.statement⟩ } := by
  induction keys generalizing script with
  | nil => simp
  | cons key keys ih =>
      rw [List.foldl_cons, ih]
      simp [Sql.Script.add, Sql.Script.addAt]

theorem create_flush {group : Group} (h : group.IsOpen) :
    group.flush.1.create =
      { group.create with
        items := group.create.items ++
          group.deferred.map fun key => ⟨0, .statement key.statement⟩ } := by
  have hadd := foldl_add group.deferred group.create
  rw [h.createLevel] at hadd
  simp only [flush, h.flushed, Bool.false_eq_true, if_false]
  rw [hadd, h.createLevel]

theorem drop_flush (group : Group) : group.flush.1.drop = group.drop := by
  unfold flush
  split <;> rfl

theorem tables_flush (group : Group) : group.flush.1.tables = group.tables := by
  unfold flush
  split <;> rfl

end Group
end Table
end ErdSql
