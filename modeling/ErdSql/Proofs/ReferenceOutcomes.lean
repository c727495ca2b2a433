import ErdSql.Proofs.Notices
import ErdSql.Proofs.TableScripts

/-!
# What comes of references

Each column that refers to another one comes to an end of its own.  If the schema of what it refers
to has a name that can be used, or if nothing is found to refer to, the end is a foreign key and no
report, or one warning about the column and no foreign key, whatever else is wrong.  Otherwise the
schema is told about as well, so the column leads to two warnings.
-/

namespace ErdSql

theorem Event.diagnostics_reports (ds : List Diagnostic) :
    Event.diagnostics (ds.map Event.report) = ds := by
  unfold Event.diagnostics
  rw [List.filterMap_map]
  exact List.filterMap_some

namespace Table

/-- What is wrong with the schema of the column that a reference names, if there is such a column
and its schema cannot be used. -/
def schemaFault? (index : Index) (target : String) : Option Naming.NameFault := do
  let referred ← index.column? (.named target)
  let owner ← index.owner? (.column referred)
  match Naming.schemaName? ((index.dataModelOf? owner).map (·.toElement)) with
  | .error fault => some fault
  | .ok _ => none

/-- A reference of the given column is settled: it comes to a foreign key and no report, or to one
warning about the column and no foreign key. -/
inductive Reference.IsSettled (column : String) : Reference → Prop
  | kept (key : Sql.ForeignKey) : IsSettled column ⟨[], some key⟩
  | refused (message : String) :
      IsSettled column ⟨[⟨.warning, message, some column⟩], none⟩

/-- The reports of a reference of the given column begin with what is wrong with a schema; a
warning about the column follows, and there is no foreign key. -/
inductive Reference.IsToldTwice (fault : Naming.NameFault) (column : String) : Reference → Prop
  | intro (message : String) :
      IsToldTwice fault column ⟨[fault.diagnostic, ⟨.warning, message, some column⟩], none⟩

theorem Reference.IsSettled.length_reports_le {column : String} {reference : Reference}
    (h : reference.IsSettled column) : reference.reports.length ≤ 1 := by
  cases h with
  | kept key => exact Nat.zero_le 1
  | refused message => exact Nat.le_refl 1

theorem Reference.IsToldTwice.not_isSettled {fault : Naming.NameFault} {column : String}
    {reference : Reference} (h : reference.IsToldTwice fault column) :
    ¬ reference.IsSettled column := by
  cases h with
  | intro message => exact fun hsettled => absurd hsettled.length_reports_le (by simp)

section Columns

variable (index : Index) (table tableName : String)

/-- A reference is settled unless the schema of what it refers to is told about. -/
theorem resolveReference_outcome (column : NamedColumn) (target : String) :
    match schemaFault? index target with
    | none => (resolveReference index table tableName column target).IsSettled
        column.resolved.column.name
    | some fault => (resolveReference index table tableName column target).IsToldTwice fault
        column.resolved.column.name := by
  unfold schemaFault? resolveReference
  cases index.column? (.named target) with
  | none => exact .refused _
  | some referred =>
      simp only [Option.bind_eq_bind, Option.bind_some]
      cases index.owner? (.column referred) with
      | none => exact .refused _
      | some owner =>
          simp only [Option.bind_some]
          cases Naming.schemaName? ((index.dataModelOf? owner).map (·.toElement)) with
          | error fault =>
              cases Naming.columnName referred.toElement <;>
                cases Naming.prefixedTableName (prefixOf (index.owner? owner)) owner.element <;>
                  exact .intro _
          | ok schema =>
              cases Naming.columnName referred.toElement with
              | error fault => exact .refused _
              | ok refColumn =>
                  cases Naming.prefixedTableName (prefixOf (index.owner? owner)) owner.element with
                  | error fault => exact .refused _
                  | ok refTable => exact .kept _

theorem isSettled_resolveReference_iff (column : NamedColumn) (target : String) :
    (resolveReference index table tableName column target).IsSettled column.resolved.column.name ↔
      schemaFault? index target = none := by
  have houtcome := resolveReference_outcome index table tableName column target
  cases hfault : schemaFault? index target with
  | none =>
      rw [hfault] at houtcome
      exact iff_of_true houtcome rfl
  | some fault =>
      rw [hfault] at houtcome
      exact iff_of_false houtcome.not_isSettled nofun

theorem isToldTwice_resolveReference (column : NamedColumn) {target : String}
    {fault : Naming.NameFault} (h : schemaFault? index target = some fault) :
    (resolveReference index table tableName column target).IsToldTwice fault
      column.resolved.column.name := by
  have houtcome := resolveReference_outcome index table tableName column target
  rwa [h] at houtcome

/-- The columns that refer to another one, each with the identity that it gives. -/
def referringColumns (columns : List NamedColumn) : List (NamedColumn × String) :=
  columns.filterMap fun column =>
    (referenceTarget? column.resolved.column).map fun target => (column, target)

/-- What comes of the references of a table, in the order of its columns. -/
def references (columns : List NamedColumn) : List Reference :=
  (referringColumns columns).map fun (column, target) =>
    resolveReference index table tableName column target

theorem referenceEdits_eq_flatMap {options : Options} (hon : options.foreignKeys = true)
    (columns : List NamedColumn) :
    referenceEdits options index table tableName columns =
      (references index table tableName columns).flatMap Reference.edits := by
  rw [referenceEdits, if_pos hon, references, referringColumns, List.map_filterMap,
    List.filterMap_eq_flatMap_toList, List.flatMap_assoc]
  refine List.flatMap_congr fun column _ => ?_
  cases referenceTarget? column.resolved.column <;> simp

theorem keys_flatMap_edits (outcomes : List Reference) :
    (outcomes.flatMap Reference.edits).filterMap Edit.key? =
      (outcomes.filterMap (·.key)).map .foreignKey := by
  rw [List.filterMap_flatMap, List.filterMap_eq_flatMap_toList, List.map_flatMap]
  refine List.flatMap_congr fun reference _ => ?_
  rw [Reference.edits_keys]
  cases reference.key <;> rfl

theorem events_flatMap_edits (outcomes : List Reference) :
    (outcomes.flatMap Reference.edits).filterMap Edit.event? =
      (outcomes.flatMap (·.reports)).map Event.report := by
  rw [List.filterMap_flatMap, List.map_flatMap]
  refine List.flatMap_congr fun reference _ => ?_
  rw [Reference.edits, List.filterMap_append, events_reports]
  cases reference.key <;> simp [Edit.event?]

/-- A reference comes to one thing, or to two if a schema is told about. -/
theorem length_key_add_length_reports (column : NamedColumn) (target : String) :
    (resolveReference index table tableName column target).key.toList.length +
        (resolveReference index table tableName column target).reports.length =
      if (schemaFault? index target).isSome then 2 else 1 := by
  have houtcome := resolveReference_outcome index table tableName column target
  generalize resolveReference index table tableName column target = reference at houtcome
  cases hfault : schemaFault? index target with
  | none =>
      rw [hfault] at houtcome
      cases houtcome <;> rfl
  | some fault =>
      rw [hfault] at houtcome
      cases houtcome
      rfl

/-- Foreign keys and reports together are as many as the references, and one more for each of them
with a schema that is told about. -/
theorem length_keys_add_length_reports (columns : List NamedColumn) :
    ((references index table tableName columns).filterMap (·.key)).length +
        ((references index table tableName columns).flatMap (·.reports)).length =
      (referringColumns columns).length +
        (referringColumns columns).countP fun referring =>
          (schemaFault? index referring.2).isSome := by
  rw [List.filterMap_eq_flatMap_toList]
  unfold references
  induction referringColumns columns with
  | nil => rfl
  | cons referring rest ih =>
      have hone := length_key_add_length_reports index table tableName referring.1 referring.2
      simp only [List.map_cons, List.flatMap_cons, List.length_append, List.length_cons,
        List.countP_cons] at ih ⊢
      split at hone
      · rename_i hfault
        rw [if_pos hfault]
        omega
      · rename_i hnone
        rw [if_neg hnone]
        omega

end Columns

section Runs

variable {options : Options} (hon : options.foreignKeys = true) (index : Index)
  (schema tablePrefix : String) (entity : Entity) {tableName : String}
  (h : Naming.prefixedTableName tablePrefix entity.toElement = .ok tableName)

theorem keys_openingEdits (table : String) :
    (openingEdits table entity).filterMap Edit.key? = [] :=
  keys_eq_nil_of_isPlain (openingEdits_isPlain table entity)

theorem diagnostics_openingEdits (table : String) :
    Event.diagnostics ((openingEdits table entity).filterMap Edit.event?) =
      entity.columns.flatMap (columnDiagnostics table) := by
  rw [events_openingEdits]
  exact Event.diagnostics_reports _

section Closing

variable {entity} {table : String} {closing : List Edit}
  (hclosing : closing <+: closingEdits options table tableName entity)

include hclosing

theorem keys_eq_nil_of_prefix_closingEdits : closing.filterMap Edit.key? = [] :=
  keys_eq_nil_of_prefix hclosing (closingEdits_isPlain ..)

/-- After its references a table reports on triggers only. -/
theorem diagnostics_prefix_of_prefix_closingEdits :
    Event.diagnostics (closing.filterMap Edit.event?) <+:
      (entity.tags.pointingThrough options.triggerMarker).filterMap Tag.routineFault? := by
  have hevents := (hclosing.filterMap Edit.event?).filterMap Event.diagnostic?
  rw [events_closingEdits] at hevents
  change Event.diagnostics _ <+: Event.diagnostics _ at hevents
  rwa [Event.diagnostics_reports] at hevents

end Closing

include hon h

theorem entityEdits_eq_references :
    let table := schema ++ "." ++ tableName
    entityEdits options index schema tablePrefix entity =
      openingEdits table entity ++
        ((references index table tableName (tableColumns table entity)).flatMap Reference.edits ++
          closingEdits options table tableName entity) := by
  intro table
  rw [entityEdits_of_ok _ _ _ _ _ h, referenceEdits_eq_flatMap index _ _ hon]

/-- Where foreign keys can still be put off, the references are all made if the labels of the types
can be written, and none of them is made if they cannot. -/
theorem takeWhile_isAccepted_entityEdits :
    let table := schema ++ "." ++ tableName
    let accepted := (entityEdits options index schema tablePrefix entity).takeWhile
      (Edit.isAccepted false)
    (hasWritableTypes table entity = true →
      ∃ closing, closing <+: closingEdits options table tableName entity ∧
        accepted = openingEdits table entity ++
          ((references index table tableName (tableColumns table entity)).flatMap
            Reference.edits ++ closing)) ∧
    (hasWritableTypes table entity = false → accepted <+: openingEdits table entity) := by
  intro table accepted
  have haccepted : accepted = (openingEdits table entity ++
      ((references index table tableName (tableColumns table entity)).flatMap Reference.edits ++
        closingEdits options table tableName entity)).takeWhile (Edit.isAccepted false) :=
    congrArg _ (entityEdits_eq_references hon index schema tablePrefix entity h)
  have hopening := all_isAccepted_openingEdits table entity false
  constructor
  · intro hlabels
    have hreferences : ((references index table tableName (tableColumns table entity)).flatMap
        Reference.edits).all (Edit.isAccepted false) = true := by
      rw [← referenceEdits_eq_flatMap index table tableName hon]
      exact (all_isAccepted_of_isOfReference false (referenceEdits_isOfReference ..)).2 nofun
    rw [hlabels] at hopening
    -- what is refused, if anything is, comes after the references
    refine ⟨_, List.takeWhile_prefix (Edit.isAccepted false), ?_⟩
    rw [haccepted, List.takeWhile_append_of_pos (List.all_eq_true.1 hopening),
      List.takeWhile_append_of_pos (List.all_eq_true.1 hreferences)]
  · intro hlabels
    rw [hlabels] at hopening
    rw [haccepted, takeWhile_append_of_all_eq_false hopening]
    exact List.takeWhile_prefix _

/-- Where references are made into foreign keys that can still be put off, each column that refers
to another one comes to its own end, in the order of the columns: after the reports on the columns
and before those on the triggers.  A reference is settled exactly if no schema is told about on its
way; if one is, that is told, and the column is warned about as well. -/
theorem run_entityEdits_references (group : Group) (hopen : group.flushed = false) :
    let table := schema ++ "." ++ tableName
    let run := group.run (entityEdits options index schema tablePrefix entity)
    let outcomes := references index table tableName (tableColumns table entity)
    (hasWritableTypes table entity = true →
      run.group.deferred = group.deferred ++ (outcomes.filterMap (·.key)).map .foreignKey ∧
        ∃ later, Event.diagnostics run.events =
            entity.columns.flatMap (columnDiagnostics table) ++
              (outcomes.flatMap (·.reports) ++ later) ∧
          later <+: (entity.tags.pointingThrough options.triggerMarker).filterMap
            Tag.routineFault?) ∧
    (hasWritableTypes table entity = false →
      run.group.deferred = group.deferred ∧
        Event.diagnostics run.events <+: entity.columns.flatMap (columnDiagnostics table)) ∧
    (∀ column target, (column, target) ∈ referringColumns (tableColumns table entity) →
      let outcome := resolveReference index table tableName column target
      (outcome.IsSettled column.resolved.column.name ↔ schemaFault? index target = none) ∧
        ∀ fault, schemaFault? index target = some fault →
          outcome.IsToldTwice fault column.resolved.column.name) ∧
    (outcomes.filterMap (·.key)).length + (outcomes.flatMap (·.reports)).length =
      outcomes.length + (referringColumns (tableColumns table entity)).countP fun referring =>
        (schemaFault? index referring.2).isSome := by
  intro table run outcomes
  have hrun : run = group.run (entityEdits options index schema tablePrefix entity) := rfl
  rw [Group.run_eq_grown, hopen] at hrun
  obtain ⟨hwritable, hunwritable⟩ :=
    takeWhile_isAccepted_entityEdits hon index schema tablePrefix entity h
  refine ⟨fun hlabels => ?_, fun hlabels => ?_, fun column target _ =>
    ⟨isSettled_resolveReference_iff .., fun fault =>
      isToldTwice_resolveReference index table tableName column⟩, ?_⟩
  · obtain ⟨closing, hclosing, haccepted⟩ := hwritable hlabels
    rw [haccepted] at hrun
    refine ⟨?_, Event.diagnostics (closing.filterMap Edit.event?), ?_,
      diagnostics_prefix_of_prefix_closingEdits hclosing⟩
    · rw [hrun]
      simp only [Group.grown, List.filterMap_append, keys_openingEdits, keys_flatMap_edits,
        keys_eq_nil_of_prefix_closingEdits hclosing, List.nil_append, List.append_nil]
      rfl
    · rw [hrun]
      simp only [List.filterMap_append, Event.diagnostics_append, diagnostics_openingEdits,
        events_flatMap_edits, Event.diagnostics_reports]
      rfl
  · have hpart := hunwritable hlabels
    constructor
    · have hkeys := hpart.filterMap Edit.key?
      rw [keys_openingEdits] at hkeys
      rw [hrun]
      simp only [Group.grown, List.prefix_nil.1 hkeys, List.append_nil]
    · have hevents := (hpart.filterMap Edit.event?).filterMap Event.diagnostic?
      rw [hrun, ← diagnostics_openingEdits]
      exact hevents
  · have hlength : outcomes.length =
        (referringColumns (tableColumns table entity)).length := List.length_map ..
    rw [hlength]
    exact length_keys_add_length_reports index table tableName (tableColumns table entity)

end Runs

/-- An entity with a column that refers to one of its own, one that refers to a column in a data
model whose schema has no name, and one that refers to nothing. -/
def referringEntity : Entity :=
  { id := .named "purchase"
    name := "Purchase"
    columns := [
      { id := .named "code", name := "code" },
      { id := .named "earlier", name := "earlier_code", referenceTo := some "code" },
      { id := .named "customer", name := "customer_id", referenceTo := some "customer.id" },
      { id := .named "clerk", name := "clerk_id", referenceTo := some "clerk.id" }] }

def referringProject : Project :=
  { id := .named "shop"
    name := "Shop"
    dataModels := [
      { id := .named "sales", name := "Sales", members := [.entity referringEntity] },
      { id := .named "core"
        name := "Core"
        tags := [.ofString "schema" "core-2"]
        members := [.entity {
          id := .named "client"
          name := "Client"
          columns := [{ id := .named "customer.id", name := "id" }] }] }] }

/-- One column comes to a foreign key and one to a warning, but the one whose schema has no name
comes to two. -/
theorem run_entityEdits_references_referring :
    let run := (Group.empty "    ").run
      (entityEdits {} (.ofProject referringProject) "public" "" referringEntity)
    run.group.deferred = [.foreignKey {
        table := "public.purchase", constraintTable := "purchase", column := "earlier_code",
        refSchema := "public", refTable := "purchase", refColumn := "code" }] ∧
      Event.diagnostics run.events = [
        ⟨.warning, "Schema name not valid: core-2", some "Core"⟩,
        ⟨.warning, "Reference target Client.id has no valid name, foreign key skipped for " ++
          "column customer_id of public.purchase", some "customer_id"⟩,
        ⟨.warning, "Reference target clerk.id not found for column clerk_id of public.purchase",
          some "clerk_id"⟩] := by
  intro run
  have hon : ({} : Options).foreignKeys = true := rfl
  have hname : Naming.prefixedTableName "" referringEntity.toElement = .ok "purchase" := by
    decide +kernel
  obtain ⟨hwritable, -⟩ := run_entityEdits_references hon (.ofProject referringProject) "public" ""
    referringEntity hname (Group.empty "    ") rfl
  obtain ⟨hdeferred, later, hdiagnostics, hlater⟩ := hwritable (by decide +kernel)
  have hnone : later = [] := List.prefix_nil.1 hlater
  refine ⟨hdeferred.trans (by decide +kernel), ?_⟩
  rw [hdiagnostics, hnone]
  decide +kernel

end Table
end ErdSql
