import ErdSql.Proofs.TableEdits
import Mathlib.Data.List.Nodup

/-!
# What log records show

The values attached to a record are those that it brings with it, overwritten by its context: under
the name of a field that is set stands the field, and under a name of other values the last of
them.  A record of what a table or a failure tells brings nothing but the element that it is about.
-/

namespace ErdSql

namespace Json

variable {members : List (String × Json)}

theorem map_fst_setMember (name : String) (value : Json) :
    (setMember name value members).map (·.1) =
      if name ∈ members.map (·.1) then members.map (·.1) else members.map (·.1) ++ [name] := by
  induction members with
  | nil => simp [setMember]
  | cons m members ih =>
      by_cases hname : m.1 = name
      · simp [setMember, hname]
      · have hne : ¬ name = m.1 := fun h => hname h.symm
        simp only [setMember, beq_iff_eq, hname, if_false, List.map_cons, ih, List.mem_cons, hne,
          false_or]
        split <;> rfl

theorem nodup_overwrite (h : (members.map (·.1)).Nodup) (updates : List (String × Json)) :
    ((overwrite members updates).map (·.1)).Nodup := by
  induction updates generalizing members with
  | nil => exact h
  | cons m updates ih =>
      refine ih ?_
      rw [map_fst_setMember]
      split
      · exact h
      · rename_i hname
        exact List.nodup_append'.2 ⟨h, List.nodup_singleton _, by simpa using hname⟩

theorem member?_cons (name : String) (m : String × Json) :
    member? name (m :: members) = if m.1 = name then some m.2 else member? name members := by
  unfold member?
  by_cases hname : m.1 = name
  · simp [hname]
  · simp [hname]

theorem member?_setMember (name key : String) (value : Json) :
    member? name (setMember key value members) =
      if key = name then some value else member? name members := by
  induction members with
  | nil => rw [setMember, member?_cons]
  | cons m members ih =>
      rw [setMember]
      by_cases hkey : m.1 = key
      · rw [if_pos (beq_iff_eq.2 hkey), member?_cons, member?_cons, hkey]
        split <;> rfl
      · rw [if_neg (by simpa using hkey), member?_cons, member?_cons, ih]
        by_cases hname : m.1 = name
        · have hne : ¬ key = name := fun h => hkey (hname.trans h.symm)
          rw [if_pos hname, if_neg hne, if_pos hname]
        · rw [if_neg hname, if_neg hname]

theorem member?_eq_none {name : String} (h : name ∉ members.map (·.1)) :
    member? name members = none := by
  induction members with
  | nil => rfl
  | cons m members ih =>
      rw [List.map_cons, List.mem_cons, not_or] at h
      rw [member?_cons, if_neg (Ne.symm h.1), ih h.2]

/-- The later value of a name counts. -/
theorem member?_overwrite (name : String) {updates : List (String × Json)}
    (h : (updates.map (·.1)).Nodup) :
    member? name (overwrite members updates) =
      (member? name updates <|> member? name members) := by
  induction updates generalizing members with
  | nil => rfl
  | cons m updates ih =>
      rw [List.map_cons, List.nodup_cons] at h
      have hrest := @ih (setMember m.1 m.2 members) h.2
      rw [member?_setMember] at hrest
      rw [member?_cons]
      refine hrest.trans ?_
      by_cases hname : m.1 = name
      · rw [if_pos hname, if_pos hname, member?_eq_none (hname ▸ h.1)]
        rfl
      · rw [if_neg hname, if_neg hname]

end Json

namespace Log

theorem Field.name_injective : Function.Injective Field.name := by
  intro field other h
  cases field <;> cases other <;> simp [name] at h ⊢

theorem Field.mem_all (field : Field) : field ∈ all := by
  cases field <;> decide

namespace Context

/-- Those of the fields that are set, each under its name. -/
def fields (context : Context) (among : List Field) : List (String × Json) :=
  among.filterMap fun field => (context.get field).map fun value => (field.name, .string value)

theorem fields_cons (context : Context) (field : Field) (among : List Field) :
    context.fields (field :: among) =
      ((context.get field).map fun value => (field.name, Json.string value)).toList ++
        context.fields among := by
  rw [fields, fields, List.filterMap_cons]
  cases context.get field <;> rfl

theorem members_of_extra {context : Context} (h : context.extra = []) :
    context.members = context.fields Field.all := by
  rw [members, h]
  rfl

theorem nodup_fields (context : Context) : ((context.fields Field.all).map (·.1)).Nodup := by
  have hself : ∀ field name, name ∈ ((context.get field).map fun value =>
      (field.name, Json.string value)).map (·.1) → name = field.name := by
    intro field name hname
    cases hvalue : context.get field with
    | none => simp [hvalue] at hname
    | some value => simpa [hvalue, eq_comm] using hname
  rw [fields, List.map_filterMap]
  have hall : Field.all.Nodup := by decide
  exact hall.filterMap fun field other name hfield hother =>
    Field.name_injective ((hself field name hfield).symm.trans (hself other name hother))

theorem nodup_members (context : Context) : (context.members.map (·.1)).Nodup :=
  Json.nodup_overwrite context.nodup_fields context.extra

theorem member?_fields (context : Context) (field : Field) (among : List Field) :
    Json.member? field.name (context.fields among) =
      if field ∈ among then (context.get field).map .string else none := by
  induction among with
  | nil => rfl
  | cons f among ih =>
      rw [fields_cons]
      by_cases hfield : f = field
      · subst hfield
        rw [if_pos List.mem_cons_self]
        cases hvalue : context.get f with
        | none =>
            rw [hvalue, Option.map_none, ite_self] at ih
            exact ih
        | some value => exact (Json.member?_cons _ _).trans (if_pos rfl)
      · have hmem : field ∈ f :: among ↔ field ∈ among := by simp [Ne.symm hfield]
        simp only [hmem, ← ih]
        cases hvalue : context.get f with
        | none => rfl
        | some value =>
            have hname : ¬ f.name = field.name := fun h => hfield (Field.name_injective h)
            exact (Json.member?_cons _ _).trans (if_neg hname)

/-- Without other values, what is shown under the name of a field is the field. -/
theorem member?_members {context : Context} (h : context.extra = []) (field : Field) :
    Json.member? field.name context.members = (context.get field).map .string := by
  rw [members_of_extra h, member?_fields, if_pos field.mem_all]

end Context

namespace Record

/-- The value attached to a record under a name. -/
def value? (record : Record) (name : String) : Option Json :=
  record.data.bind (Json.member? name)

theorem value?_inContext (context : Context) (level : Level) (logger message : String)
    (data : List (String × Json)) (cause : Option Cause) {name : String}
    (h : name ∉ data.map (·.1)) :
    (Record.inContext context level logger message data cause).value? name =
      Json.member? name context.members := by
  refine (Json.member?_overwrite name context.nodup_members).trans ?_
  rw [Json.member?_eq_none h]
  cases Json.member? name context.members <;> rfl

end Record
end Log

namespace Event

variable {event : Event} {moment : Log.Moment} {written : String → String → String}
  {followsReports : Bool} {record : Log.Record}

/-- What only tells something is recorded with its context, and with nothing else but the element
that it is about. -/
theorem value?_of_isTalk (h : event.isTalk = true)
    (hrecord : event.record? moment written followsReports = some record) {name : String}
    (hname : name ≠ "element") :
    record.value? name = Json.member? name event.context.members := by
  rcases action_of_isTalk h with ⟨d, haction⟩ | ⟨level, logger, message, cause, haction⟩
  · simp only [record?, haction] at hrecord
    split at hrecord
    · cases hrecord
      refine Log.Record.value?_inContext _ _ _ _ _ _ fun hmem => hname ?_
      obtain ⟨m, hm, rfl⟩ := List.mem_map.1 hmem
      cases helement : d.element with
      | none => simp [helement] at hm
      | some element =>
          simp only [helement] at hm
          split at hm
          · cases hm
          · rw [List.mem_singleton.1 hm]
    · cases hrecord
  · simp only [record?, haction, Option.some.injEq] at hrecord
    rw [← hrecord]
    exact Log.Record.value?_inContext _ _ _ _ _ _ List.not_mem_nil

theorem context_of_record?
    (hrecord : event.record? moment written followsReports = some record) :
    record.context = event.context := by
  obtain ⟨context, action⟩ := event
  cases action with
  | report d =>
      cases followsReports with
      | false => cases hrecord
      | true =>
          cases hrecord
          rfl
  | note level logger message cause =>
      cases hrecord
      rfl
  | mark name data =>
      cases hrecord
      rfl
  | assign tag => cases hrecord
  | write path script =>
      cases hrecord
      rfl
  | conclude step => cases hrecord

end Event

end ErdSql
