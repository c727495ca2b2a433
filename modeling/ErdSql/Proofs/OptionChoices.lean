import ErdSql.Options.Reading
import Mathlib.Data.List.Nodup

/-!
# Choosing options

A mapping decides each option on its own: by the last value that it gives to the option under
either of its names, or not at all.  What a later value takes the place of is never read, so only
the last number of spaces can be at fault.  Reading a second mapping on top of a first one is
reading both of them in one.
-/

namespace ErdSql

section Dictionaries

variable {κ α : Type} [DecidableEq κ]

theorem lookup_updateEntry (key k : κ) (change : Option α → α) (entries : List (κ × α)) :
    (Options.updateEntry key change entries).lookup k =
      if k = key then some (change (entries.lookup key)) else entries.lookup k := by
  induction entries with
  | nil =>
      by_cases hk : k = key
      · simp [Options.updateEntry, hk]
      · simp [Options.updateEntry, hk]
  | cons entry entries ih =>
      obtain ⟨first, value⟩ := entry
      by_cases hfirst : first = key
      · subst hfirst
        by_cases hk : k = first
        · simp [Options.updateEntry, hk]
        · simp [Options.updateEntry, List.lookup_cons, beq_false_of_ne hk, hk]
      · have hkey := beq_false_of_ne (Ne.symm hfirst)
        by_cases hk : k = first
        · simp [Options.updateEntry, hfirst, hk]
        · simp [Options.updateEntry, hfirst, List.lookup_cons, beq_false_of_ne hk, hkey, ih]

theorem map_fst_updateEntry (key : κ) (change : Option α → α) (entries : List (κ × α)) :
    (Options.updateEntry key change entries).map (·.1) =
      if key ∈ entries.map (·.1) then entries.map (·.1) else entries.map (·.1) ++ [key] := by
  induction entries with
  | nil => rfl
  | cons entry entries ih =>
      obtain ⟨first, value⟩ := entry
      by_cases hfirst : first = key
      · simp [Options.updateEntry, hfirst]
      · simp only [Options.updateEntry, hfirst, if_false, List.map_cons, ih, List.mem_cons,
          Ne.symm hfirst, false_or]
        split <;> rfl

theorem nodup_updateEntry {key : κ} {change : Option α → α} {entries : List (κ × α)}
    (h : (entries.map (·.1)).Nodup) :
    ((Options.updateEntry key change entries).map (·.1)).Nodup := by
  rw [map_fst_updateEntry]
  split
  · exact h
  · rename_i hnew
    simpa using List.Nodup.concat hnew h

theorem lookup_eq_none {key : κ} {entries : List (κ × α)} (h : key ∉ entries.map (·.1)) :
    entries.lookup key = none :=
  List.lookup_eq_none_iff.2 fun entry hentry =>
    bne_iff_ne.2 fun heq => h (List.mem_map.2 ⟨entry, hentry, heq.symm⟩)

end Dictionaries

namespace OptionKey

/-- Whether an option goes by a name: the host application's or the other one. -/
def GoesBy (key : OptionKey) (name : String) : Prop :=
  name = key.hostName ∨ name = key.fieldName

instance (key : OptionKey) (name : String) : Decidable (key.GoesBy name) :=
  inferInstanceAs (Decidable (name = key.hostName ∨ name = key.fieldName))

/-- A name is that of one option at most. -/
theorem ofName?_eq_some_iff (key : OptionKey) (name : String) :
    ofName? name = some key ↔ key.GoesBy name := by
  constructor
  · intro h
    unfold ofName? at h
    cases hhost : all.find? fun key => name == key.hostName with
    | some found =>
        obtain rfl : found = key := by
          rw [hhost] at h
          exact Option.some.inj h
        exact Or.inl (by simpa using List.find?_some hhost)
    | none =>
        rw [hhost] at h
        change all.find? (fun key => name == key.fieldName) = some key at h
        exact Or.inr (by simpa using List.find?_some h)
  · rintro (rfl | rfl)
    · cases key <;> rfl
    · cases key <;> rfl

theorem mem_all (key : OptionKey) : key ∈ all := by
  cases key <;> decide

theorem mem_keys_iff (key : OptionKey) (group : OptionGroup) :
    key ∈ group.keys ↔ key.group = group := by
  rw [OptionGroup.keys, List.mem_filter, decide_eq_true_eq]
  exact and_iff_right key.mem_all

theorem nodup_keys (group : OptionGroup) : group.keys.Nodup :=
  List.Nodup.filter _ (by decide : all.Nodup)

end OptionKey

/-- Whether a value is `null`. -/
def Json.isNull : Json → Bool
  | .null => true
  | _ => false

namespace Options

/-- The value of an option. -/
def get (options : Options) : (key : OptionKey) → key.kind.Value
  | .useTab => options.useTab
  | .indentSpaces => options.indentSpaces
  | .owner => options.owner
  | .encoding => options.encoding
  | .tablespace => options.tablespace
  | .collation => options.collation
  | .dropStatements => options.dropStatements
  | .foreignKeys => options.foreignKeys
  | .tableInserts => options.tableInserts
  | .triggerMarker => options.triggerMarker
  | .functionMarker => options.functionMarker
  | .procedureMarker => options.procedureMarker

theorem get_set_self (options : Options) (key : OptionKey) (value : key.kind.Value) :
    (options.set key value).get key = value := by
  cases key <;> rfl

theorem get_set_of_ne {key other : OptionKey} (h : other ≠ key) (options : Options)
    (value : key.kind.Value) : (options.set key value).get other = options.get other := by
  cases key <;> cases other <;> first | rfl | exact absurd rfl h

theorem ext_get {options others : Options} (h : ∀ key, options.get key = others.get key) :
    options = others := by
  obtain ⟨⟩ := options
  obtain ⟨⟩ := others
  simp only [Options.mk.injEq]
  exact ⟨h .useTab, h .indentSpaces, h .owner, h .encoding, h .tablespace, h .collation,
    h .dropStatements, h .foreignKeys, h .tableInserts, h .triggerMarker, h .functionMarker,
    h .procedureMarker⟩

/-- Only a number of spaces can be at fault. -/
theorem eq_indentSpaces_of_error {key : OptionKey} {value : Json} {fault : OptionFault}
    (h : valueOf key.kind value = .error fault) : key = .indentSpaces := by
  cases key <;> first | rfl | cases h

/-- What an option is set to if it is given a value, or is left at if not. -/
def read (key : OptionKey) (given : Option Json) (base : Options) :
    Except OptionFault key.kind.Value :=
  match given with
  | some value => valueOf key.kind value
  | none => .ok (base.get key)

section Assignments

/-- Setting an option of which nothing is said later is giving it a value. -/
theorem read_lookup_cons {key : OptionKey} {given : Json} {value : key.kind.Value}
    (hvalue : valueOf key.kind given = .ok value) {entries : List (OptionKey × Json)}
    (h : key ∉ entries.map (·.1)) (other : OptionKey) (base : Options) :
    read other (((key, given) :: entries).lookup other) base =
      read other (entries.lookup other) (base.set key value) := by
  by_cases hother : other = key
  · subst hother
    rw [List.lookup_cons_self, lookup_eq_none h]
    exact hvalue.trans (congrArg _ (get_set_self ..).symm)
  · rw [List.lookup_cons, beq_false_of_ne hother]
    cases entries.lookup other with
    | none => exact congrArg Except.ok (get_set_of_ne hother ..).symm
    | some value => rfl

variable {entries : List (OptionKey × Json)} (hnodup : (entries.map (·.1)).Nodup)

include hnodup

/-- Setting options one after the other sets each to its value. -/
theorem foldlM_assign_eq_ok_iff (base options : Options) :
    entries.foldlM assign base = .ok options ↔
      ∀ key, read key (entries.lookup key) base = .ok (options.get key) := by
  induction entries generalizing base with
  | nil =>
      refine ⟨fun h key => ?_, fun h => ?_⟩
      · cases h
        rfl
      · exact congrArg _ (ext_get fun key => Except.ok.inj (h key))
  | cons entry entries ih =>
      obtain ⟨key, given⟩ := entry
      obtain ⟨hnew, hnodup⟩ := List.nodup_cons.1 hnodup
      rw [List.foldlM_cons, assign]
      cases hvalue : valueOf key.kind given with
      | error fault =>
          refine iff_of_false nofun fun h => ?_
          have hkey := h key
          rw [List.lookup_cons_self] at hkey
          cases hvalue.symm.trans hkey
      | ok value =>
          exact (ih hnodup _).trans (forall_congr' fun other => by
            rw [read_lookup_cons hvalue hnew])

/-- Setting options one after the other fails only for the number of spaces. -/
theorem foldlM_assign_eq_error_iff (base : Options) (fault : OptionFault) :
    entries.foldlM assign base = .error fault ↔
      read .indentSpaces (entries.lookup .indentSpaces) base = .error fault := by
  induction entries generalizing base with
  | nil => exact iff_of_false nofun nofun
  | cons entry entries ih =>
      obtain ⟨key, given⟩ := entry
      obtain ⟨hnew, hnodup⟩ := List.nodup_cons.1 hnodup
      rw [List.foldlM_cons, assign]
      cases hvalue : valueOf key.kind given with
      | error found =>
          obtain rfl := eq_indentSpaces_of_error hvalue
          rw [List.lookup_cons_self]
          have hread : read .indentSpaces (some given) base = .error found := hvalue
          rw [hread]
          exact ⟨fun h => congrArg _ (Except.error.inj h), fun h => congrArg _ (Except.error.inj h)⟩
      | ok value =>
          rw [read_lookup_cons hvalue hnew]
          exact ih hnodup _

end Assignments

section Mappings

/-- The assignments that the values of one group come to. -/
def groupEntries (entry : OptionGroup × List (OptionKey × Json)) : List (OptionKey × Json) :=
  entry.1.keys.filterMap fun key => (entry.2.lookup key).map (key, ·)

theorem lookup_filterMap (keys : List OptionKey) (values : List (OptionKey × Json))
    (key : OptionKey) :
    (keys.filterMap fun k => (values.lookup k).map (k, ·)).lookup key =
      if key ∈ keys then values.lookup key else none := by
  induction keys with
  | nil => rfl
  | cons k keys ih =>
      by_cases hkey : key = k
      · subst hkey
        cases hvalue : values.lookup key with
        | none =>
            rw [List.filterMap_cons_none (by rw [hvalue]; rfl), ih, hvalue]
            simp
        | some value =>
            rw [List.filterMap_cons_some (by rw [hvalue]; rfl), List.lookup_cons_self]
            simp
      · have hmem : key ∈ k :: keys ↔ key ∈ keys := by simp [hkey]
        simp only [hmem, ← ih]
        cases hvalue : values.lookup k with
        | none => rw [List.filterMap_cons_none (by rw [hvalue]; rfl)]
        | some value =>
            rw [List.filterMap_cons_some (by rw [hvalue]; rfl), List.lookup_cons,
              beq_false_of_ne hkey]

theorem lookup_groupEntries (group : OptionGroup) (values : List (OptionKey × Json))
    (key : OptionKey) :
    (groupEntries (group, values)).lookup key =
      if key.group = group then values.lookup key else none := by
  simp only [groupEntries, lookup_filterMap, OptionKey.mem_keys_iff]

theorem group_eq_of_mem_groupEntries {entry : OptionGroup × List (OptionKey × Json)}
    {key : OptionKey} (h : key ∈ (groupEntries entry).map (·.1)) : key.group = entry.1 := by
  obtain ⟨assigned, hassigned, rfl⟩ := List.mem_map.1 h
  obtain ⟨key, hkey, hvalue⟩ := List.mem_filterMap.1 hassigned
  obtain ⟨value, -, rfl⟩ := Option.map_eq_some_iff.1 hvalue
  exact (OptionKey.mem_keys_iff key entry.1).1 hkey

theorem nodup_groupEntries (entry : OptionGroup × List (OptionKey × Json)) :
    ((groupEntries entry).map (·.1)).Nodup := by
  rw [groupEntries, List.map_filterMap]
  have hself : ∀ key k, k ∈ ((entry.2.lookup key).map (key, ·)).map (·.1) → k = key := by
    intro key k hk
    cases hvalue : entry.2.lookup key with
    | none => simp [hvalue] at hk
    | some value => simpa [hvalue, eq_comm] using hk
  exact (OptionKey.nodup_keys entry.1).filterMap fun key other k hkey hother =>
    (hself key k hkey).symm.trans (hself other k hother)

variable (updates : Updates)

/-- All assignments, group by group. -/
def assignments : List (OptionKey × Json) :=
  updates.flatMap groupEntries

theorem foldlM_setGroup (base : Options) :
    updates.foldlM setGroup base = (assignments updates).foldlM assign base := by
  induction updates generalizing base with
  | nil => rfl
  | cons entry updates ih =>
      rw [List.foldlM_cons, assignments, List.flatMap_cons, List.foldlM_append]
      exact bind_congr fun options => ih options

/-- The value that is collected for an option. -/
def value? (key : OptionKey) : Option Json :=
  (updates.lookup key.group).bind (·.lookup key)

theorem lookup_assignments (h : (updates.map (·.1)).Nodup) (key : OptionKey) :
    (assignments updates).lookup key = value? updates key := by
  induction updates with
  | nil => rfl
  | cons entry updates ih =>
      obtain ⟨group, values⟩ := entry
      obtain ⟨hnew, hnodup⟩ := List.nodup_cons.1 h
      have hrest := ih hnodup
      unfold assignments at hrest
      rw [assignments, List.flatMap_cons, List.lookup_append, lookup_groupEntries, hrest, value?,
        value?]
      by_cases hgroup : key.group = group
      · -- a group is collected once, so the others say nothing of its options
        subst hgroup
        rw [if_pos rfl, List.lookup_cons_self, lookup_eq_none hnew, Option.bind_none,
          Option.or_none, Option.bind_some]
      · rw [if_neg hgroup, List.lookup_cons, beq_false_of_ne hgroup]
        rfl

theorem nodup_assignments (h : (updates.map (·.1)).Nodup) :
    ((assignments updates).map (·.1)).Nodup := by
  rw [assignments, List.map_flatMap, List.nodup_flatMap]
  refine ⟨fun entry _ => nodup_groupEntries entry, ?_⟩
  refine (List.pairwise_map.1 h).imp fun {entry other} hne => ?_
  exact fun key hkey hother =>
    hne ((group_eq_of_mem_groupEntries hkey).symm.trans (group_eq_of_mem_groupEntries hother))

theorem value?_put (key : OptionKey) (value : Json) (other : OptionKey) :
    value? (updates.put key value) other =
      if other = key then some value else value? updates other := by
  rw [value?, value?, Updates.put, lookup_updateEntry]
  by_cases hgroup : other.group = key.group
  · rw [if_pos hgroup, Option.bind_some, lookup_updateEntry, hgroup]
    cases updates.lookup key.group <;> rfl
  · have hne : other ≠ key := fun heq => hgroup (congrArg _ heq)
    rw [if_neg hgroup, if_neg hne]

theorem nodup_take (h : (updates.map (·.1)).Nodup) (member : String × Json) :
    ((updates.take member).map (·.1)).Nodup := by
  unfold Updates.take
  split
  · exact h
  · split
    · exact h
    · exact nodup_updateEntry h

theorem nodup_ofMapping (mapping : List (String × Json)) :
    ((Updates.ofMapping mapping).map (·.1)).Nodup := by
  have hfold : ∀ updates : Updates, (updates.map (·.1)).Nodup →
      ((mapping.foldl Updates.take updates).map (·.1)).Nodup := by
    induction mapping with
    | nil => exact fun _ h => h
    | cons member mapping ih => exact fun updates h => ih _ (nodup_take updates h member)
  exact hfold [] List.nodup_nil

/-- The values that a mapping gives to an option, under either name; `null` is no value. -/
def given (key : OptionKey) (mapping : List (String × Json)) : List Json :=
  (mapping.filter fun (name, value) =>
    key.GoesBy name ∧ value.isNull = false).map (·.2)

theorem given_append (key : OptionKey) (mapping later : List (String × Json)) :
    given key (mapping ++ later) = given key mapping ++ given key later := by
  rw [given, List.filter_append, List.map_append]
  rfl

theorem given_singleton (key : OptionKey) (member : String × Json) :
    given key [member] =
      if OptionKey.ofName? member.1 = some key ∧ member.2.isNull = false then [member.2] else [] := by
  rw [given, List.filter_cons]
  simp only [OptionKey.ofName?_eq_some_iff, decide_eq_true_eq]
  split <;> rfl

theorem value?_take (member : String × Json) (key : OptionKey) :
    value? (updates.take member) key = (given key [member]).getLast?.or (value? updates key) := by
  rw [given_singleton]
  unfold Updates.take
  cases hname : OptionKey.ofName? member.1 with
  | none => simp
  | some found =>
      have hput : ∀ value : Json, value? (updates.put found value) key =
          (if found = key then [value] else []).getLast?.or (value? updates key) := by
        intro value
        rw [value?_put]
        by_cases hkey : key = found
        · simp [hkey]
        · simp [hkey, Ne.symm hkey]
      cases hvalue : member.2 with
      | null => simp [Json.isNull]
      | _ => simpa [Json.isNull] using hput _

/-- The last value that a mapping gives to an option is collected. -/
theorem value?_ofMapping (mapping : List (String × Json)) (key : OptionKey) :
    value? (Updates.ofMapping mapping) key = (given key mapping).getLast? := by
  have hfold : ∀ updates : Updates, value? (mapping.foldl Updates.take updates) key =
      (given key mapping).getLast?.or (value? updates key) := by
    induction mapping with
    | nil => exact fun _ => rfl
    | cons member mapping ih =>
        intro updates
        have hcons : given key (member :: mapping) = given key [member] ++ given key mapping :=
          given_append key [member] mapping
        rw [List.foldl_cons, ih, value?_take, hcons, List.getLast?_append, Option.or_assoc]
  exact (hfold []).trans (Option.or_none ..)

end Mappings

section Choices

variable (mapping : List (String × Json)) (base : Options)

/-- What an option is set to by a mapping: the last value that it is given, read as one of its
kind, or else what the base has. -/
def choice (key : OptionKey) : Except OptionFault key.kind.Value :=
  read key (given key mapping).getLast? base

theorem ofMapping_eq_ok_iff (options : Options) :
    ofMapping mapping base = .ok options ↔
      ∀ key, choice mapping base key = .ok (options.get key) := by
  have hnodup := nodup_ofMapping mapping
  rw [ofMapping, foldlM_setGroup, foldlM_assign_eq_ok_iff (nodup_assignments _ hnodup)]
  refine forall_congr' fun key => ?_
  rw [lookup_assignments _ hnodup, value?_ofMapping]
  rfl

theorem ofMapping_eq_error_iff (fault : OptionFault) :
    ofMapping mapping base = .error fault ↔ choice mapping base .indentSpaces = .error fault := by
  have hnodup := nodup_ofMapping mapping
  rw [ofMapping, foldlM_setGroup, foldlM_assign_eq_error_iff (nodup_assignments _ hnodup),
    lookup_assignments _ hnodup, value?_ofMapping]
  rfl

/-- Nothing but the choices matters. -/
theorem ofMapping_congr {mapping mapping' : List (String × Json)} {base base' : Options}
    (h : ∀ key, choice mapping base key = choice mapping' base' key) :
    ofMapping mapping base = ofMapping mapping' base' := by
  cases hread : ofMapping mapping' base' with
  | error fault =>
      rw [ofMapping_eq_error_iff, h]
      exact (ofMapping_eq_error_iff ..).1 hread
  | ok options =>
      rw [ofMapping_eq_ok_iff]
      exact fun key => (h key).trans ((ofMapping_eq_ok_iff ..).1 hread key)

/-- On top of what a first mapping comes to, a second one chooses as both do in one. -/
theorem choice_append {options : Options} (h : ofMapping mapping base = .ok options)
    (later : List (String × Json)) (key : OptionKey) :
    choice later options key = choice (mapping ++ later) base key := by
  have hfirst := (ofMapping_eq_ok_iff mapping base options).1 h key
  unfold choice read at hfirst ⊢
  rw [given_append, List.getLast?_append]
  cases (given key later).getLast? with
  | none => exact hfirst.symm
  | some value => rfl

/-- A mapping that gives values under both names, no value to some options and one to none. -/
def officeMapping : List (String × Json) :=
  [("useTab", .string " Yes "), ("indentSpaces", .array []), ("colour", .int 3),
    ("owner", .bool true), ("use_tab", .null), ("indent_spaces", .string " 2 "), ("owner", .null)]

end Choices

end Options

end ErdSql
