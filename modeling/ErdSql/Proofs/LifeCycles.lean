import ErdSql.Proofs.TableScripts
import Mathlib.Algebra.Order.Ring.Nat

/-!
# Life of a group

Tables are generated into a group, constraints are put off and written, in any order and number,
whether an operation ends early or not.  A constraint is put off as long as none has been written;
the first time that they are to be written, all of them are, and after that there is nothing left
to write and nothing can be put off.  So the creating script holds none of the constraints or all
of them, at every moment.
-/

namespace ErdSql

/-- The constraint that a line adds to a table that is there. -/
def Sql.Line.constraint? : Sql.Line → Option Sql.Constraint
  | .statement (.addForeignKey key) => some (.foreignKey key)
  | .statement (.verbatim clause) => some (.verbatim clause)
  | _ => none

theorem Sql.Line.constraint?_statement (key : Sql.Constraint) :
    (Sql.Line.statement key.statement).constraint? = some key := by
  cases key <;> rfl

theorem Sql.Line.constraint?_of_isAddition {line : Sql.Line} (h : line.isAddition = true) :
    line.constraint? = none := by
  cases line with
  | blank => rfl
  | text text => rfl
  | statement statement => cases statement <;> first | rfl | cases h

namespace Table

/-- What can be done with a group. -/
inductive Operation where
  /-- Generates the table of an entity. -/
  | generate (options : Options) (index : Index) (schema tablePrefix : String) (entity : Entity)
  /-- Puts off a constraint. -/
  | defer (key : Sql.Constraint)
  /-- Writes the constraints that were put off. -/
  | flush

namespace Operation

def isFlush : Operation → Bool
  | .flush => true
  | _ => false

/-- The constraints that an operation puts off, as long as none have been written: a table puts off
its foreign keys unless the writing of its types ends it. -/
def keys : Operation → List Sql.Constraint
  | .generate options index schema tablePrefix entity =>
      match Naming.prefixedTableName tablePrefix entity.toElement with
      | .error _ => []
      | .ok tableName =>
          if options.foreignKeys && hasWritableTypes (schema ++ "." ++ tableName) entity then
            (entityForeignKeys index schema tablePrefix entity).map .foreignKey
          else []
  | .defer key => [key]
  | .flush => []

end Operation

/-- What comes of an operation. -/
inductive Answer where
  /-- Whether there is a table. -/
  | generated (done : Bool)
  | deferred
  /-- The number of constraints that were written. -/
  | flushed (count : Nat)
  | refused (fault : Sql.BuildFault)

def Answer.count : Answer → Nat
  | .flushed count => count
  | _ => 0

namespace Group

/-- The group after an operation, and what comes of it. -/
def perform (group : Group) : Operation → Group × Answer
  | .generate options index schema tablePrefix entity =>
      let run := group.run (entityEdits options index schema tablePrefix entity)
      match run.fault with
      | some fault => (run.group, .refused fault)
      | none => (run.group, .generated (isGenerated tablePrefix entity))
  | .defer key =>
      match group.defer key with
      | .error fault => (group, .refused fault)
      | .ok next => (next, .deferred)
  | .flush => (group.flush.1, .flushed group.flush.2)

/-- The group after operations, and what comes of each. -/
def performAll (group : Group) : List Operation → Group × List Answer
  | [] => (group, [])
  | operation :: operations =>
      let (next, answer) := group.perform operation
      let (last, answers) := next.performAll operations
      (last, answer :: answers)

/-- The constraints in the creating script. -/
def written (group : Group) : List Sql.Constraint :=
  group.create.items.filterMap (·.line.constraint?)

/-- The creating script holds no constraint before they are written, and all of them after that. -/
structure IsCoherent (group : Group) : Prop where
  level : group.create.level = 0
  written : group.written = if group.flushed then group.deferred else []

theorem isCoherent_empty (indentUnit : String) : (empty indentUnit).IsCoherent :=
  ⟨rfl, rfl⟩

end Group

section Entities

variable (options : Options) (index : Index) (schema tablePrefix : String) (entity : Entity)

/-- Whether the change adds no constraint to the creating script. -/
def Edit.isUnconstrained (edit : Edit) : Bool :=
  match edit.createItem? with
  | some item => item.line.constraint?.isNone
  | none => true

theorem Edit.isUnconstrained_of_isAddition {edit : Edit} (h : edit.isAddition = true) :
    edit.isUnconstrained = true := by
  cases edit with
  | create depth line =>
      exact Option.isNone_iff_eq_none.2 (Sql.Line.constraint?_of_isAddition h)
  | _ => rfl

theorem Edit.isUnconstrained_of_isOfReference {edit : Edit} (h : edit.isOfReference = true) :
    edit.isUnconstrained = true := by
  rw [isUnconstrained, (items_of_isOfReference h).1]

/-- Generating a table writes no constraint. -/
theorem all_isUnconstrained_entityEdits :
    (entityEdits options index schema tablePrefix entity).all Edit.isUnconstrained = true := by
  cases hname : Naming.prefixedTableName tablePrefix entity.toElement with
  | error fault =>
      rw [entityEdits_of_error _ _ _ _ _ hname]
      rfl
  | ok tableName =>
      have hreferences := referenceEdits_isOfReference options index (schema ++ "." ++ tableName)
        tableName (tableColumns (schema ++ "." ++ tableName) entity)
      have hfurther := furtherEdits_isAddition options (schema ++ "." ++ tableName) tableName entity
      rw [List.all_eq_true] at hreferences hfurther
      rw [entityEdits_of_ok _ _ _ _ _ hname, closingEdits_eq, List.all_append, List.all_append,
        List.all_append, all_openingEdits (p := Edit.isUnconstrained) _ rfl (fun _ => rfl)
          (fun _ => rfl) (fun _ _ => rfl) (fun _ => rfl) rfl (fun _ => rfl),
        all_bodyEdits (p := Edit.isUnconstrained) _ rfl rfl (fun _ _ => rfl) rfl,
        List.all_eq_true.2 fun edit hedit =>
          Edit.isUnconstrained_of_isOfReference (hreferences edit hedit),
        List.all_eq_true.2 fun edit hedit =>
          Edit.isUnconstrained_of_isAddition (hfurther edit hedit)]
      rfl

/-- Once constraints have been written, none is put off. -/
theorem keys_takeWhile_isAccepted_true (edits : List Edit) :
    (edits.takeWhile (Edit.isAccepted true)).filterMap Edit.key? = [] := by
  refine List.filterMap_eq_nil_iff.2 fun edit hedit => ?_
  have haccepted := List.mem_takeWhile_imp hedit
  cases edit with
  | defer key => cases haccepted
  | _ => rfl

/-- The constraints that a run puts off: those that it calls for, or none once constraints have been
written. -/
theorem keys_accepted (flushed : Bool) :
    ((entityEdits options index schema tablePrefix entity).takeWhile
        (Edit.isAccepted flushed)).filterMap Edit.key? =
      if flushed then [] else (Operation.generate options index schema tablePrefix entity).keys := by
  cases flushed with
  | true => exact keys_takeWhile_isAccepted_true _
  | false =>
      cases hname : Naming.prefixedTableName tablePrefix entity.toElement with
      | error fault =>
          rw [entityEdits_of_error _ _ _ _ _ hname, Operation.keys, hname]
          rfl
      | ok tableName =>
          have hopening := all_isAccepted_openingEdits (schema ++ "." ++ tableName) entity false
          have hreferences := (all_isAccepted_of_isOfReference false (referenceEdits_isOfReference
            options index (schema ++ "." ++ tableName) tableName
            (tableColumns (schema ++ "." ++ tableName) entity))).2 nofun
          rw [entityEdits_of_ok _ _ _ _ _ hname, Operation.keys, hname]
          cases hlabels : hasWritableTypes (schema ++ "." ++ tableName) entity with
          | false =>
              rw [hlabels] at hopening
              rw [takeWhile_append_of_all_eq_false hopening]
              simp [hlabels, keys_eq_nil_of_prefix (List.takeWhile_prefix _) (openingEdits_isPlain ..)]
          | true =>
              rw [hlabels] at hopening
              rw [List.takeWhile_append_of_pos (List.all_eq_true.1 hopening),
                List.takeWhile_append_of_pos (List.all_eq_true.1 hreferences),
                List.filterMap_append, List.filterMap_append,
                keys_eq_nil_of_isPlain (openingEdits_isPlain ..),
                keys_eq_nil_of_prefix (List.takeWhile_prefix _) (closingEdits_isPlain ..)]
              cases hon : options.foreignKeys with
              | false => simp [hlabels, referenceEdits_of_off hon]
              | true =>
                  simp [hlabels, referenceEdits_keys hon, entityForeignKeys, hname]

theorem findSome?_fault?_of_isOfReference {edits : List Edit}
    (h : edits.all Edit.isOfReference = true) (hkeys : edits.filterMap Edit.key? ≠ []) :
    edits.findSome? (Edit.fault? true) = some .alreadyFlushed := by
  induction edits with
  | nil => exact absurd rfl hkeys
  | cons edit edits ih =>
      rw [List.all_cons, Bool.and_eq_true] at h
      rcases Edit.eq_of_isOfReference h.1 with ⟨event, rfl, -⟩ | ⟨key, rfl⟩
      · exact ih h.2 hkeys
      · rfl

/-- Once constraints have been written, a run that calls for one is refused. -/
theorem fault_of_keys_ne_nil {group : Group} (hflushed : group.flushed = true)
    (hkeys : (Operation.generate options index schema tablePrefix entity).keys ≠ []) :
    (group.run (entityEdits options index schema tablePrefix entity)).fault =
      some .alreadyFlushed := by
  simp only [Operation.keys] at hkeys
  cases hname : Naming.prefixedTableName tablePrefix entity.toElement with
  | error fault => simp [hname] at hkeys
  | ok tableName =>
      simp only [hname, ne_eq, ite_eq_right_iff, Bool.and_eq_true, Classical.not_imp] at hkeys
      obtain ⟨⟨hon, hlabels⟩, hcalled⟩ := hkeys
      -- the types are written, and the first foreign key is one too many
      have hopening := all_isAccepted_openingEdits (schema ++ "." ++ tableName) entity true
      have hkeys := referenceEdits_keys hon index (schema ++ "." ++ tableName) tableName entity
      rw [hlabels] at hopening
      have hnone : (openingEdits (schema ++ "." ++ tableName) entity).findSome?
          (Edit.fault? true) = none :=
        List.findSome?_eq_none_iff.2 fun edit hedit =>
          Option.isNone_iff_eq_none.1 (List.all_eq_true.1 hopening edit hedit)
      have hrefused := findSome?_fault?_of_isOfReference (referenceEdits_isOfReference options index
        (schema ++ "." ++ tableName) tableName
        (tableColumns (schema ++ "." ++ tableName) entity)) (by
          rw [hkeys]
          simpa [entityForeignKeys, hname] using hcalled)
      rw [Group.run_eq_grown, hflushed, entityEdits_of_ok _ _ _ _ _ hname]
      simp only [List.findSome?_append, hnone, hrefused]
      rfl

end Entities

namespace Group

variable {group : Group}

/-- What can come next for a group: how its constraints are written, and how one more is
refused. -/
structure GoesOn (group : Group) : Prop where
  /-- Also within the generation of a table the script holds no constraint or all of them. -/
  within : ∀ options index schema tablePrefix entity edits,
    edits <+: entityEdits options index schema tablePrefix entity → (group.run edits).group.IsCoherent
  /-- The first time, all constraints are written, in the order in which they were put off. -/
  first : group.flushed = false → group.perform .flush =
    ({ group with
        create := { group.create with
          items := group.create.items ++
            group.deferred.map fun key => ⟨0, .statement key.statement⟩ }
        flushed := true },
      .flushed group.deferred.length)
  later : group.flushed = true → group.perform .flush = (group, .flushed 0)
  refused : group.flushed = true → ∀ key,
    group.perform (.defer key) = (group, .refused .alreadyFlushed)
  refusedWithin : group.flushed = true → ∀ options index schema tablePrefix entity,
    let operation := Operation.generate options index schema tablePrefix entity
    (group.perform operation).1.deferred = group.deferred ∧
      (operation.keys ≠ [] → (group.perform operation).2 = .refused .alreadyFlushed)

theorem written_run {edits : List Edit} (h : edits.all Edit.isUnconstrained = true) :
    (group.run edits).group.written = group.written := by
  have hnone : ((edits.takeWhile (Edit.isAccepted group.flushed)).filterMap
      Edit.createItem?).filterMap (·.line.constraint?) = [] := by
    rw [List.filterMap_filterMap]
    refine List.filterMap_eq_nil_iff.2 fun edit hedit => ?_
    have hunconstrained := List.all_eq_true.1 h edit ((List.takeWhile_prefix _).subset hedit)
    unfold Edit.isUnconstrained at hunconstrained
    cases hitem : edit.createItem? with
    | none => rfl
    | some item =>
        rw [hitem] at hunconstrained
        exact Option.isNone_iff_eq_none.1 hunconstrained
  have hbelow : ∀ items : List Sql.ScriptItem, (items.map (·.below group.create.level)).filterMap
      (·.line.constraint?) = items.filterMap (·.line.constraint?) := by
    intro items
    rw [List.filterMap_map]
    rfl
  rw [run_eq_grown]
  simp only [written, grown, List.filterMap_append, hbelow, hnone, List.append_nil]

theorem deferred_run (group : Group) (edits : List Edit) :
    (group.run edits).group.deferred =
      group.deferred ++ (edits.takeWhile (Edit.isAccepted group.flushed)).filterMap Edit.key? := by
  rw [run_eq_grown]
  rfl

theorem flushed_run (group : Group) (edits : List Edit) :
    (group.run edits).group.flushed = group.flushed := by
  rw [run_eq_grown]
  rfl

theorem IsCoherent.run (h : group.IsCoherent) {edits : List Edit}
    (hedits : edits.all Edit.isUnconstrained = true) : (group.run edits).group.IsCoherent := by
  refine ⟨?_, ?_⟩
  · rw [run_eq_grown]
    exact h.level
  · rw [written_run hedits, h.written, flushed_run, deferred_run]
    cases group.flushed with
    | false => rfl
    | true => rw [keys_takeWhile_isAccepted_true, List.append_nil]

theorem IsCoherent.flush_eq (h : group.IsCoherent) (hopen : group.flushed = false) :
    group.flush =
      ({ group with
          create := { group.create with
            items := group.create.items ++
              group.deferred.map fun key => ⟨0, .statement key.statement⟩ }
          flushed := true },
        group.deferred.length) := by
  rw [flush, if_neg (by simp [hopen]), foldl_add]
  simp only [h.level]

/-- The script held no constraint, so it holds the ones that are written now. -/
theorem IsCoherent.written_flush (h : group.IsCoherent) (hopen : group.flushed = false) :
    group.flush.1.written = group.deferred := by
  have hnone := h.written
  have hkeys : (group.deferred.map fun key =>
      (⟨0, .statement key.statement⟩ : Sql.ScriptItem)).filterMap (·.line.constraint?) =
        group.deferred := by
    rw [List.filterMap_map]
    exact (List.filterMap_congr fun key _ =>
      Sql.Line.constraint?_statement key).trans List.filterMap_some
  rw [hopen, if_neg Bool.false_ne_true] at hnone
  unfold Group.written at hnone
  rw [h.flush_eq hopen, Group.written, List.filterMap_append, hnone, hkeys, List.nil_append]

theorem flush_of_flushed (h : group.flushed = true) : group.flush = (group, 0) := by
  rw [flush, if_pos h]

/-- From a group to a coherent one: what was put off and written on the way. -/
structure LeadsTo (group : Group) (keys : List Sql.Constraint) (flushes : Bool) (count : Nat)
    (next : Group) : Prop where
  coherent : next.IsCoherent
  flushed : next.flushed = (group.flushed || flushes)
  deferred : next.deferred = group.deferred ++ if group.flushed then [] else keys
  count : count + group.written.length = next.written.length

theorem IsCoherent.leadsTo (h : group.IsCoherent) : group.LeadsTo [] false 0 group :=
  ⟨h, (Bool.or_false _).symm, by simp, Nat.zero_add _⟩

theorem LeadsTo.trans {next last : Group} {keys keys' : List Sql.Constraint}
    {flushes flushes' : Bool} {count count' : Nat}
    (h : group.LeadsTo keys flushes count next) (h' : next.LeadsTo keys' flushes' count' last) :
    group.LeadsTo (keys ++ if flushes then [] else keys') (flushes || flushes') (count + count')
      last := by
  refine ⟨h'.coherent, ?_, ?_, ?_⟩
  · rw [h'.flushed, h.flushed, Bool.or_assoc]
  · rw [h'.deferred, h.deferred, h.flushed]
    cases group.flushed <;> cases flushes <;> simp
  · rw [← h'.count, ← h.count]
    omega

/-- One operation. -/
theorem IsCoherent.perform (h : group.IsCoherent) (operation : Operation) :
    group.LeadsTo operation.keys operation.isFlush (group.perform operation).2.count
      (group.perform operation).1 := by
  cases operation with
  | generate options index schema tablePrefix entity =>
      have hedits := all_isUnconstrained_entityEdits options index schema tablePrefix entity
      have hrun : group.LeadsTo (Operation.generate options index schema tablePrefix entity).keys
          false 0 (group.run (entityEdits options index schema tablePrefix entity)).group := by
        refine ⟨h.run hedits, ?_, ?_, ?_⟩
        · rw [flushed_run, Bool.or_false]
        · rw [deferred_run, keys_accepted]
        · rw [written_run hedits, Nat.zero_add]
      unfold Group.perform
      cases hfault : (group.run (entityEdits options index schema tablePrefix entity)).fault with
      | none =>
          simp only [hfault]
          exact hrun
      | some fault =>
          simp only [hfault]
          exact hrun
  | defer key =>
      have hwritten := h.written
      unfold Group.perform Group.defer
      cases hflushed : group.flushed with
      | true => exact ⟨h, by simp [hflushed, Operation.isFlush], by simp [hflushed], Nat.zero_add _⟩
      | false =>
          rw [hflushed] at hwritten
          refine ⟨⟨h.level, ?_⟩, ?_, ?_, Nat.zero_add _⟩
          · simp only [Bool.false_eq_true, if_false]
            exact hwritten
          · simp [hflushed, Operation.isFlush]
          · simp [hflushed, Operation.keys]
  | flush =>
      have hwritten := h.written
      unfold Group.perform
      cases hflushed : group.flushed with
      | true =>
          rw [flush_of_flushed hflushed]
          exact ⟨h, by simp [hflushed], by simp [hflushed], Nat.zero_add _⟩
      | false =>
          rw [hflushed, if_neg Bool.false_ne_true] at hwritten
          have hflush := h.written_flush hflushed
          rw [h.flush_eq hflushed] at hflush ⊢
          refine ⟨⟨h.level, hflush⟩, ?_, ?_, ?_⟩
          · simp [Operation.isFlush]
          · simp [Operation.keys]
          · rw [hflush, hwritten]
            rfl

/-- Any number of operations. -/
theorem IsCoherent.performAll (h : group.IsCoherent) (operations : List Operation) :
    group.LeadsTo ((operations.takeWhile fun operation => !operation.isFlush).flatMap Operation.keys)
      (operations.any Operation.isFlush)
      ((group.performAll operations).2.map Answer.count).sum (group.performAll operations).1 := by
  induction operations generalizing group with
  | nil => exact h.leadsTo
  | cons operation operations ih =>
      have hfirst := h.perform operation
      have hall := hfirst.trans (ih hfirst.coherent)
      have hkeys : ((operation :: operations).takeWhile fun operation =>
          !operation.isFlush).flatMap Operation.keys =
            operation.keys ++ if operation.isFlush then []
              else (operations.takeWhile fun operation => !operation.isFlush).flatMap
                Operation.keys := by
        cases operation <;> simp [Operation.isFlush, Operation.keys]
      rw [hkeys]
      exact hall

theorem IsCoherent.goesOn (h : group.IsCoherent) : group.GoesOn := by
  refine ⟨fun options index schema tablePrefix entity edits hedits => h.run ?_, fun hopen => ?_,
    fun hflushed => ?_, fun hflushed key => ?_,
    fun hflushed options index schema tablePrefix entity => ⟨?_, fun hkeys => ?_⟩⟩
  · have hall := all_isUnconstrained_entityEdits options index schema tablePrefix entity
    exact List.all_eq_true.2 fun edit hedit =>
      List.all_eq_true.1 hall edit (hedits.subset hedit)
  · rw [Group.perform, h.flush_eq hopen]
  · rw [Group.perform, flush_of_flushed hflushed]
  · rw [Group.perform, Group.defer, if_pos hflushed]
  · have hnext := h.perform (.generate options index schema tablePrefix entity)
    rw [hnext.deferred, hflushed, if_pos rfl, List.append_nil]
  · simp only [Group.perform,
      fault_of_keys_ne_nil options index schema tablePrefix entity hflushed hkeys]

/-- An entity with a column that refers to one of its own. -/
def partEntity : Entity :=
  { id := .named "part"
    name := "Part"
    columns := [
      { id := .named "code", name := "code" },
      { id := .named "whole", name := "whole_code", referenceTo := some "code" }] }

def partProject : Project :=
  { id := .named "plant"
    name := "Plant"
    dataModels := [{ id := .named "stock", name := "Stock", members := [.entity partEntity] }] }

/-- The table is generated once before the constraints are written and once after that, and they are
to be written twice. -/
def partOperations : List Operation :=
  [.defer (.verbatim "ALTER TABLE public.part ADD CHECK (code <> '');"),
    .generate {} (.ofProject partProject) "public" "" partEntity, .flush,
    .generate {} (.ofProject partProject) "public" "" partEntity, .flush]

end Group

end Table
end ErdSql
