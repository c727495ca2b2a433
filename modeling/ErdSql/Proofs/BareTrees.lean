import ErdSql.Proofs.Deliveries

/-!
# Trees without contents

Whether a file can be written depends on the files and directories that are there, and not on
what is in the files.  A bare tree has empty files; making directories and writing files go
the same way in a tree and in the bare one, so files below a directory fail by path.
-/

namespace ErdSql
namespace Storage

/-- The entry without contents. -/
def Entry.bare : Entry → Entry
  | .directory => .directory
  | .file _ => .file []

namespace Tree

/-- The tree with empty files. -/
def bare (tree : Tree) : Tree :=
  ⟨tree.entries.map fun (place, entry) => (place, entry.bare)⟩

/-- What has been attempted, with empty files. -/
def bareAttempt (attempt : Attempt) : Attempt :=
  (attempt.1.bare, attempt.2)

theorem get?_bare (tree : Tree) (place : Place) :
    tree.bare.get? place = (tree.get? place).map Entry.bare := by
  unfold get?
  split
  · rfl
  · have hfind : tree.bare.entries.find? (fun e => e.1 == place) =
        (tree.entries.find? fun e => e.1 == place).map
          fun (place, entry) => (place, entry.bare) := List.find?_map ..
    rw [hfind, Option.map_map, Option.map_map]
    rfl

theorem set_bare (tree : Tree) (place : Place) (entry : Entry) :
    tree.bare.set place entry.bare = (tree.set place entry).bare := by
  have hfilter : tree.bare.entries.filter (fun e => e.1 != place) =
      (tree.entries.filter fun e => e.1 != place).map
        fun (place, entry) => (place, entry.bare) := List.filter_map ..
  unfold set bare
  simp only [bare] at hfilter
  rw [hfilter, List.map_append]
  rfl

theorem followSteps_bare (tree : Tree) (place : Place) (steps : List String) :
    tree.bare.followSteps place steps = tree.followSteps place steps := by
  induction steps generalizing place with
  | nil => rfl
  | cons step steps ih =>
      unfold followSteps
      rw [get?_bare]
      cases tree.get? place with
      | none => rfl
      | some entry =>
          cases entry with
          | directory =>
              simp only [Option.map_some, Entry.bare, ih]
          | file contents => rfl

theorem resolve_bare (tree : Tree) (path : Path) : tree.bare.resolve path = tree.resolve path := by
  unfold resolve
  rw [followSteps_bare]

theorem isDirectory_bare (tree : Tree) (path : Path) :
    tree.bare.isDirectory path = tree.isDirectory path := by
  unfold isDirectory
  rw [resolve_bare]
  cases tree.resolve path with
  | error refusal => rfl
  | ok place =>
      simp only [get?_bare]
      cases tree.get? place with
      | none => rfl
      | some entry => cases entry <;> rfl

theorem makeDirectory_bare (tree : Tree) (path : Path) :
    tree.bare.makeDirectory path = (tree.makeDirectory path).map bare := by
  unfold makeDirectory
  rw [resolve_bare]
  cases tree.resolve path with
  | error refusal => rfl
  | ok place =>
      simp only [get?_bare]
      cases tree.get? place with
      | none => exact congrArg Except.ok (set_bare tree place .directory)
      | some entry => rfl

theorem settle_bare (tree : Tree) (path : Path) (refusal : Refusal) :
    tree.bare.settle path refusal = bareAttempt (tree.settle path refusal) := by
  unfold settle
  rw [isDirectory_bare]
  split <;> rfl

theorem makeDirectories_bare (tree : Tree) (start : PathStart) (steps : List String) :
    tree.bare.makeDirectories start steps = bareAttempt (tree.makeDirectories start steps) := by
  induction steps with
  | nil => rfl
  | cons last before ih =>
      unfold makeDirectories
      simp only [makeDirectory_bare, ih, settle_bare]
      cases tree.makeDirectory ⟨start, (last :: before).reverse⟩ with
      | ok made => rfl
      | error refusal =>
          cases refusal with
          | missing =>
              -- only here the directories above are made first
              simp only [Except.map]
              cases tree.makeDirectories start before with
              | mk prepared fault =>
                  cases fault with
                  | some fault => rfl
                  | none =>
                      simp only [bareAttempt, makeDirectory_bare, settle_bare]
                      cases prepared.makeDirectory ⟨start, (last :: before).reverse⟩ <;> rfl
          | notPermitted => rfl
          | alreadyExists => rfl
          | notDirectory => rfl
          | isDirectory => rfl
          | noSpace => rfl
          | readOnly => rfl
          | nameTooLong => rfl
          | other code words => rfl

theorem replace_bare (tree : Tree) (path : Path) (contents : List UInt8) :
    tree.bare.replace path [] = (tree.replace path contents).map bare := by
  unfold replace
  rw [resolve_bare]
  cases tree.resolve path with
  | error refusal => rfl
  | ok place =>
      have hset : tree.bare.set place (.file []) = (tree.set place (.file contents)).bare :=
        set_bare tree place (.file contents)
      simp only [get?_bare]
      cases tree.get? place with
      | none => exact congrArg Except.ok hset
      | some entry =>
          cases entry with
          | directory => rfl
          | file old => exact congrArg Except.ok hset

theorem store_bare (tree : Tree) (path : Path) (contents : List UInt8) :
    tree.bare.store path [] = bareAttempt (tree.store path contents) := by
  unfold store
  by_cases hparent : path.parent.hasNull = true
  · rw [if_pos hparent, if_pos hparent]
    rfl
  · rw [if_neg hparent, if_neg hparent, makeDirectories_bare]
    obtain ⟨prepared, fault⟩ := tree.makeDirectories path.start path.parent.steps.reverse
    cases fault with
    | some fault => rfl
    | none =>
        simp only [bareAttempt]
        by_cases hnull : path.hasNull = true
        · rw [if_pos hnull, if_pos hnull]
        · rw [if_neg hnull, if_neg hnull, replace_bare prepared path contents]
          cases prepared.replace path contents <;> rfl

end Tree

namespace Local

/-- A sink below a directory and what is there, without what is in the files. -/
def bare (sink : Local) : Path × Tree :=
  (sink.base, sink.tree.bare)

theorem write_eq_store (sink : Local) (path text : String) :
    let attempt := sink.tree.store (sink.target path) text.toUTF8.toList
    (Sink.write sink path text).2 = attempt.2 ∧
      (Sink.write sink path text).1.bare = (sink.base, attempt.1.bare) := by
  change (Local.write sink path text).2 = _ ∧ (Local.write sink path text).1.bare = _
  unfold Local.write
  obtain ⟨tree, fault⟩ := sink.tree.store (sink.target path) text.toUTF8.toList
  cases fault <;> exact ⟨rfl, rfl⟩

/-- Sinks that differ in the contents of their files take different texts alike. -/
theorem write_of_bare_eq {sink sink' : Local} (h : sink.bare = sink'.bare)
    (path text text' : String) :
    (Sink.write sink path text).2 = (Sink.write sink' path text').2 ∧
      (Sink.write sink path text).1.bare = (Sink.write sink' path text').1.bare := by
  obtain ⟨hbase, htree⟩ := Prod.ext_iff.1 h
  have htarget : sink.target path = sink'.target path :=
    congrArg (fun base : Path => base.join (.ofString path)) hbase
  have hstore : Tree.bareAttempt (sink.tree.store (sink.target path) text.toUTF8.toList) =
      Tree.bareAttempt (sink'.tree.store (sink'.target path) text'.toUTF8.toList) := by
    rw [← Tree.store_bare, ← Tree.store_bare, htarget]
    exact congrArg (fun tree : Tree => tree.store (sink'.target path) []) htree
  obtain ⟨hprepared, hfault⟩ := Prod.ext_iff.1 hstore
  obtain ⟨hwrite, hbare⟩ := write_eq_store sink path text
  obtain ⟨hwrite', hbare'⟩ := write_eq_store sink' path text'
  constructor
  · rw [hwrite, hwrite']
    exact hfault
  · rw [hbare, hbare']
    exact Prod.ext hbase hprepared

end Local

/-- Files below a directory fail by path. -/
theorem failsByPath_local (sink : Local) : FailsByPath sink := by
  intro writes writes' hpaths path text text'
  have hbare : (written sink writes).bare = (written sink writes').bare :=
    written_of_write (R := fun left right : Local => left.bare = right.bare)
      (fun _ _ path text text' h => (Local.write_of_bare_eq h path text text').2) rfl hpaths
  exact (Local.write_of_bare_eq hbare path text text').1

end Storage
end ErdSql
