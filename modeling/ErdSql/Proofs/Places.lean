import ErdSql.Proofs.Deliveries
import Mathlib.Data.List.Basic

/-!
# Places of files

A path leads to a place that can be read off its steps: the tree decides only whether the way
there is open.  Storing a file changes the tree at that place and makes the directories that are
missing on the way; everything else stays as it is.  Steps that never climb above where they
start lead below it, whichever directory they start from.
-/

namespace ErdSql
namespace Storage

namespace Place

/-- Whether a place is reached from a directory by going down, and only down. -/
def IsBelow (place base : Place) : Prop :=
  ∃ names, names ≠ [] ∧ back ∉ names ∧ rootName ∉ names ∧ place = base ++ names

/-- The names that lead from a directory to where steps come to, if the steps never climb above
the directory; the names before the first step are given. -/
def descend (names : List String) : List String → Option (List String)
  | [] => some names
  | step :: steps =>
      if step = back then
        if names = [] then none else descend names.dropLast steps
      else descend (names ++ [step]) steps

theorem above_concat {place : Place} {last : String} (hback : last ≠ back)
    (hroot : last = rootName → place ≠ []) : (place ++ [last]).above = place := by
  have hnotRoot : place ++ [last] ≠ [rootName] := by
    intro h
    rw [List.append_eq_singleton_iff] at h
    rcases h with ⟨hnil, hlast⟩ | ⟨-, hlast⟩
    · exact hroot (List.singleton_inj.1 hlast) hnil
    · cases hlast
  rw [above, List.getLast?_concat]
  simp only
  rw [if_neg hback, if_neg hnotRoot, List.dropLast_concat]

theorem follow_back_append (base : Place) {names : Place} (hnames : names ≠ [])
    (hback : back ∉ names) (hroot : rootName ∉ names) :
    (base ++ names).follow back = base ++ names.dropLast := by
  obtain ⟨before, last, rfl⟩ := (List.eq_nil_or_concat' names).resolve_left hnames
  simp only [List.mem_append, List.mem_singleton, not_or] at hback hroot
  rw [follow, if_pos rfl, ← List.append_assoc, List.dropLast_concat]
  exact above_concat (Ne.symm hback.2) fun h => absurd h.symm hroot.2

/-- Steps that descend from a directory lead to the names below it. -/
theorem foldl_follow_of_descend (base : Place) {names steps last : List String}
    (hback : back ∉ names) (hroot : rootName ∉ names) (hsteps : rootName ∉ steps)
    (h : descend names steps = some last) :
    steps.foldl follow (base ++ names) = base ++ last ∧ back ∉ last ∧ rootName ∉ last := by
  induction steps generalizing names with
  | nil =>
      cases h
      exact ⟨rfl, hback, hroot⟩
  | cons step steps ih =>
      rw [List.mem_cons, not_or] at hsteps
      rw [descend] at h
      rw [List.foldl_cons]
      by_cases hstep : step = back
      · subst hstep
        rw [if_pos rfl] at h
        by_cases hnames : names = []
        · rw [if_pos hnames] at h
          cases h
        · rw [if_neg hnames] at h
          have hsublist := names.dropLast_sublist
          rw [follow_back_append base hnames hback hroot]
          exact ih (fun hmem => hback (hsublist.subset hmem))
            (fun hmem => hroot (hsublist.subset hmem)) hsteps.2 h
      · rw [if_neg hstep] at h
        have hfollow : follow (base ++ names) step = base ++ (names ++ [step]) := by
          rw [follow, if_neg hstep, List.append_assoc]
        rw [hfollow]
        refine ih ?_ ?_ hsteps.2 h
        · simp only [List.mem_append, List.mem_singleton, not_or]
          exact ⟨hback, Ne.symm hstep⟩
        · simp only [List.mem_append, List.mem_singleton, not_or]
          exact ⟨hroot, hsteps.1⟩

/-- A place above the start or at the root is never left again. -/
theorem head?_foldl_follow {place : Place} {first : String}
    (hfirst : first = back ∨ first = rootName) (h : place.head? = some first)
    (steps : List String) : (steps.foldl follow place).head? = some first := by
  induction steps generalizing place with
  | nil => exact h
  | cons step steps ih =>
      refine ih ?_
      obtain ⟨names, rfl⟩ : ∃ names, place = first :: names := List.head?_eq_some_iff.1 h
      unfold follow
      by_cases hstep : step = back
      · rw [if_pos hstep]
        rcases List.eq_nil_or_concat' names with rfl | ⟨before, last, rfl⟩
        · rcases hfirst with rfl | rfl <;> rfl
        · rw [← List.cons_append]
          by_cases hlast : last = back
          · rw [above, List.getLast?_concat]
            simp only [if_pos hlast]
            rfl
          · rw [above_concat hlast fun _ => List.cons_ne_nil _ _]
            rfl
      · rw [if_neg hstep]
        rfl

/-- Steps that do not descend lead to a place above where they start. -/
theorem head?_foldl_follow_of_descend_eq_none {names steps : List String} (hback : back ∉ names)
    (hroot : rootName ∉ names) (hsteps : rootName ∉ steps) (h : descend names steps = none) :
    (steps.foldl follow names).head? = some back := by
  induction steps generalizing names with
  | nil => cases h
  | cons step steps ih =>
      rw [List.mem_cons, not_or] at hsteps
      rw [descend] at h
      rw [List.foldl_cons]
      by_cases hstep : step = back
      · subst hstep
        rw [if_pos rfl] at h
        by_cases hnames : names = []
        · subst hnames
          exact head?_foldl_follow (Or.inl rfl) rfl steps
        · rw [if_neg hnames] at h
          have hsublist := names.dropLast_sublist
          have hfollow : follow names back = names.dropLast :=
            follow_back_append [] hnames hback hroot
          rw [hfollow]
          exact ih (fun hmem => hback (hsublist.subset hmem))
            (fun hmem => hroot (hsublist.subset hmem)) hsteps.2 h
      · rw [if_neg hstep] at h
        have hfollow : follow names step = names ++ [step] := if_neg hstep
        rw [hfollow]
        refine ih ?_ ?_ hsteps.2 h
        · simp only [List.mem_append, List.mem_singleton, not_or]
          exact ⟨hback, Ne.symm hstep⟩
        · simp only [List.mem_append, List.mem_singleton, not_or]
          exact ⟨hroot, hsteps.1⟩

theorem descend_append (names steps steps' : List String) :
    descend names (steps ++ steps') = (descend names steps).bind (descend · steps') := by
  induction steps generalizing names with
  | nil => rfl
  | cons step steps ih =>
      rw [List.cons_append, descend, descend]
      split
      · split
        · rfl
        · exact ih _
      · exact ih _

end Place

namespace Path

/-- The place to which a path leads where the way there is open. -/
def place (path : Path) : Place :=
  path.steps.foldl Place.follow (Place.ofStart path.start)

theorem place_join {base path : Path} (h : path.start = .here) :
    (base.join path).place = path.steps.foldl Place.follow base.place := by
  rw [join, if_pos h, place, List.foldl_append]
  rfl

/-- Whether the steps of a path lead from a directory to something below it. -/
def Descends (path : Path) : Prop :=
  path.start = .here ∧ ∃ names, names ≠ [] ∧ Place.descend [] path.steps = some names

theorem place_join_here (path : Path) : (Path.join {} path).place = path.place := by
  unfold join
  split
  · rename_i hstart
    rw [List.nil_append, place, place, hstart]
  · rfl

/-- A path that does not descend leads to where it starts, above it, or into the root. -/
theorem place_of_not_descends {path : Path} (hsteps : Place.rootName ∉ path.steps)
    (h : ¬ path.Descends) :
    path.place = [] ∨ path.place.head? = some Place.back ∨
      path.place.head? = some Place.rootName := by
  by_cases hstart : path.start = .here
  · rw [place, hstart]
    cases hdescend : Place.descend [] path.steps with
    | none =>
        exact Or.inr (Or.inl (Place.head?_foldl_follow_of_descend_eq_none List.not_mem_nil
          List.not_mem_nil hsteps hdescend))
    | some names =>
        obtain ⟨hplace, -, -⟩ := Place.foldl_follow_of_descend [] List.not_mem_nil
          List.not_mem_nil hsteps hdescend
        refine Or.inl (hplace.trans ?_)
        by_contra hnames
        exact h ⟨hstart, names, hnames, hdescend⟩
  · have hroot : Place.ofStart path.start = [Place.rootName] := by
      cases hkind : path.start with
      | here => exact absurd hkind hstart
      | root => rfl
      | doubleRoot => rfl
    rw [place, hroot]
    exact Or.inr (Or.inr (Place.head?_foldl_follow (Or.inr rfl) rfl path.steps))

/-- A path leads below every directory from which it is taken exactly if it descends. -/
theorem isBelow_place_join_iff {path : Path} (hsteps : Place.rootName ∉ path.steps) :
    (∀ base : Path, (base.join path).place.IsBelow base.place) ↔ path.Descends := by
  constructor
  · intro h
    by_contra hdescends
    obtain ⟨names, hnames, hback, hroot, hplace⟩ := h {}
    have hfrom : path.place = names := (place_join_here path).symm.trans hplace
    rcases place_of_not_descends hsteps hdescends with hnil | hhead | hhead
    · exact hnames (hfrom.symm.trans hnil)
    · exact hback (hfrom ▸ List.mem_of_head? hhead)
    · exact hroot (hfrom ▸ List.mem_of_head? hhead)
  · rintro ⟨hstart, names, hnames, hdescend⟩ base
    obtain ⟨hplace, hback, hroot⟩ := Place.foldl_follow_of_descend base.place List.not_mem_nil
      List.not_mem_nil hsteps hdescend
    refine ⟨names, hnames, hback, hroot, ?_⟩
    rw [place_join hstart, ← hplace, List.append_nil]

/-- The places that a path goes through on its way, its end included. -/
def Passes (path : Path) (place : Place) : Prop :=
  ∃ steps, steps <+: path.steps ∧ place = (⟨path.start, steps⟩ : Path).place

/-- The way to the directory of a path that descends goes to the base, and from there on below
the base. -/
theorem passes_parent_join {base path : Path} (hsteps : Place.rootName ∉ path.steps)
    (h : path.Descends) {place : Place} (hplace : (base.join path).parent.Passes place) :
    base.Passes place ∨ place.IsBelow base.place := by
  obtain ⟨hstart, names, hnames, hdescend⟩ := h
  have hne : path.steps ≠ [] := by
    intro hnil
    rw [hnil] at hdescend
    exact hnames (Option.some.inj hdescend).symm
  obtain ⟨steps, hprefix, rfl⟩ := hplace
  have hjoin : (base.join path).parent = ⟨base.start, base.steps ++ path.steps.dropLast⟩ := by
    rw [join, if_pos hstart, parent, List.dropLast_append_of_ne_nil hne]
  rw [hjoin] at hprefix ⊢
  rcases List.prefix_or_prefix_of_prefix hprefix (List.prefix_append ..) with hshort | ⟨rest, rfl⟩
  · exact Or.inl ⟨steps, hshort, rfl⟩
  · -- the rest of the way is a beginning of a descent
    have hrest : rest <+: path.steps :=
      ((List.prefix_append_right_inj base.steps).1 hprefix).trans (List.dropLast_prefix _)
    obtain ⟨after, hafter⟩ := hrest
    rw [← hafter, Place.descend_append, Option.bind_eq_some_iff] at hdescend
    obtain ⟨reached, hreached, -⟩ := hdescend
    have hroot : Place.rootName ∉ rest := fun hmem =>
      hsteps (hafter ▸ List.mem_append_left after hmem)
    obtain ⟨hfold, hback, hroot⟩ := Place.foldl_follow_of_descend base.place List.not_mem_nil
      List.not_mem_nil hroot hreached
    have hend : (⟨base.start, base.steps ++ rest⟩ : Path).place = base.place ++ reached := by
      rw [← hfold, List.append_nil, place, List.foldl_append]
      rfl
    rw [hend]
    by_cases hnil : reached = []
    · rw [hnil, List.append_nil]
      exact Or.inl ⟨base.steps, List.prefix_refl _, rfl⟩
    · exact Or.inr ⟨reached, hnil, hback, hroot, rfl⟩

end Path

namespace Tree

theorem followSteps_eq_foldl {tree : Tree} {place found : Place} {steps : List String}
    (h : tree.followSteps place steps = .ok found) : found = steps.foldl Place.follow place := by
  induction steps generalizing place with
  | nil =>
      cases h
      rfl
  | cons step steps ih =>
      unfold followSteps at h
      split at h
      · cases h
      · cases h
      · split at h
        · cases h
        · exact ih h

/-- Where a path leads does not depend on the tree. -/
theorem eq_place_of_resolve {tree : Tree} {path : Path} {found : Place}
    (h : tree.resolve path = .ok found) : found = path.place := by
  unfold resolve at h
  split at h
  · cases h
  · exact followSteps_eq_foldl h

theorem get?_set (tree : Tree) {place : Place} (hplace : tree.get? place ≠ some .directory)
    (entry : Entry) (other : Place) :
    (tree.set place entry).get? other = if other = place then some entry else tree.get? other := by
  unfold get?
  by_cases hother : other = place
  · subst hother
    have hgiven : ¬ other.isGiven = true := fun h => hplace (by rw [get?, if_pos h])
    have hnone : (tree.entries.filter fun e => e.1 != other).find? (fun e => e.1 == other) =
        none := by
      rw [List.find?_eq_none]
      intro e he
      simpa using (List.mem_filter.1 he).2
    rw [if_neg hgiven, if_pos rfl, set, List.find?_append, hnone]
    simp
  · have hkept : (tree.entries.filter fun e => e.1 != place).find? (fun e => e.1 == other) =
        tree.entries.find? fun e => e.1 == other := by
      rw [List.find?_filter]
      congr 1
      funext e
      by_cases he : e.1 = other
      · simp [he, hother]
      · simp [he]
    rw [if_neg hother, set, List.find?_append, hkept]
    have hlast : [(place, entry)].find? (fun e => e.1 == other) = none := by
      simp [Ne.symm hother]
    rw [hlast, Option.or_none]

/-- A tree that differs from another one by files at some places, and by directories at others
where nothing was before. -/
def GrownAt (files directories : Place → Prop) (tree grown : Tree) : Prop :=
  ∀ place, grown.get? place = tree.get? place ∨
    (files place ∧ ∃ contents, grown.get? place = some (.file contents)) ∨
    (directories place ∧ tree.get? place = none ∧ grown.get? place = some .directory)

section Grown

variable {files directories : Place → Prop} {tree grown : Tree}

theorem GrownAt.refl (tree : Tree) : GrownAt files directories tree tree :=
  fun _ => Or.inl rfl

theorem GrownAt.trans {last : Tree} (h : GrownAt files directories tree grown)
    (h' : GrownAt files directories grown last) : GrownAt files directories tree last := by
  intro place
  rcases h' place with hkept | hfile | ⟨hplace, hnone, hmade⟩
  · rw [hkept]
    exact h place
  · exact Or.inr (Or.inl hfile)
  · rcases h place with hkept | ⟨-, contents, hfile⟩ | ⟨-, -, hdirectory⟩
    · exact Or.inr (Or.inr ⟨hplace, hkept ▸ hnone, hmade⟩)
    · rw [hnone] at hfile
      cases hfile
    · rw [hnone] at hdirectory
      cases hdirectory

theorem GrownAt.mono {files' directories' : Place → Prop}
    (h : GrownAt files directories tree grown) (hfiles : ∀ place, files place → files' place)
    (hdirectories : ∀ place, directories place → directories' place) :
    GrownAt files' directories' tree grown := by
  intro place
  rcases h place with hkept | ⟨hplace, hfile⟩ | ⟨hplace, hmade⟩
  · exact Or.inl hkept
  · exact Or.inr (Or.inl ⟨hfiles place hplace, hfile⟩)
  · exact Or.inr (Or.inr ⟨hdirectories place hplace, hmade⟩)

/-- Where a file is, one stays. -/
theorem GrownAt.exists_file (h : GrownAt files directories tree grown) {place : Place}
    (hfile : ∃ contents, tree.get? place = some (.file contents)) :
    ∃ contents, grown.get? place = some (.file contents) := by
  rcases h place with hkept | ⟨-, hnew⟩ | ⟨-, hnone, -⟩
  · rwa [hkept]
  · exact hnew
  · obtain ⟨contents, hfile⟩ := hfile
    rw [hnone] at hfile
    cases hfile

end Grown

theorem grownAt_makeDirectory {files directories : Place → Prop} {tree made : Tree} {path : Path}
    (hplace : directories path.place) (h : tree.makeDirectory path = .ok made) :
    GrownAt files directories tree made := by
  unfold makeDirectory at h
  split at h
  · cases h
  · rename_i found hfound
    split at h
    · cases h
    · rename_i hnone
      cases h
      rw [eq_place_of_resolve hfound] at hnone ⊢
      intro place
      have hget := get?_set tree (by rw [hnone]; nofun) .directory place
      by_cases heq : place = path.place
      · rw [if_pos heq] at hget
        exact Or.inr (Or.inr ⟨heq ▸ hplace, heq ▸ hnone, hget⟩)
      · rw [if_neg heq] at hget
        exact Or.inl hget

theorem settle_fst (tree : Tree) (path : Path) (refusal : Refusal) :
    (tree.settle path refusal).1 = tree := by
  unfold settle
  split <;> rfl

/-- Directories are made on the way to where the steps lead. -/
theorem grownAt_makeDirectories (files : Place → Prop) (tree : Tree) (start : PathStart)
    (steps : List String) :
    GrownAt files (Path.Passes ⟨start, steps.reverse⟩) tree
      (tree.makeDirectories start steps).1 := by
  induction steps with
  | nil => exact .refl tree
  | cons last before ih =>
      have hend : Path.Passes ⟨start, (last :: before).reverse⟩
          (Path.place ⟨start, (last :: before).reverse⟩) := ⟨_, List.prefix_refl _, rfl⟩
      have hbefore : ∀ place, Path.Passes ⟨start, before.reverse⟩ place →
          Path.Passes ⟨start, (last :: before).reverse⟩ place := by
        rintro place ⟨steps, hsteps, rfl⟩
        refine ⟨steps, hsteps.trans ?_, rfl⟩
        rw [List.reverse_cons]
        exact List.prefix_append ..
      unfold makeDirectories
      simp only
      split
      · rename_i made hmade
        exact grownAt_makeDirectory hend hmade
      · have hprepared := ih.mono (fun _ h => h) hbefore
        cases hmake : tree.makeDirectories start before with
        | mk prepared fault =>
            rw [hmake] at hprepared
            cases fault with
            | some fault => exact hprepared
            | none =>
                simp only
                split
                · rename_i made hmade
                  exact hprepared.trans (grownAt_makeDirectory hend hmade)
                · rw [settle_fst]
                  exact hprepared
      · rw [settle_fst]
        exact .refl tree

theorem get?_replace {tree replaced : Tree} {path : Path} {contents : List UInt8}
    (h : tree.replace path contents = .ok replaced) (place : Place) :
    replaced.get? place =
      if place = path.place then some (.file contents) else tree.get? place := by
  unfold replace at h
  split at h
  · cases h
  · rename_i found hfound
    rw [← eq_place_of_resolve hfound]
    split at h
    · cases h
    · rename_i hentry
      cases h
      exact get?_set tree hentry (.file contents) place

/-- Storing a file changes the tree at its place and on the way to it. -/
theorem grownAt_store (tree : Tree) (path : Path) (contents : List UInt8) :
    GrownAt (· = path.place) path.parent.Passes tree (tree.store path contents).1 := by
  unfold store
  split
  · exact .refl tree
  · have hprepared := grownAt_makeDirectories (· = path.place) tree path.start
      path.parent.steps.reverse
    rw [List.reverse_reverse] at hprepared
    cases hmake : tree.makeDirectories path.start path.parent.steps.reverse with
    | mk prepared fault =>
        rw [hmake] at hprepared
        cases fault with
        | some fault => exact hprepared
        | none =>
            simp only
            split
            · exact hprepared
            · split
              · exact hprepared
              · rename_i written hwritten
                refine hprepared.trans fun place => ?_
                have hget := get?_replace hwritten place
                by_cases heq : place = path.place
                · rw [if_pos heq] at hget
                  exact Or.inr (Or.inl ⟨heq, contents, hget⟩)
                · rw [if_neg heq] at hget
                  exact Or.inl hget

/-- A file that is stored is at the place of its path. -/
theorem get?_store {tree stored : Tree} {path : Path} {contents : List UInt8}
    (h : tree.store path contents = (stored, none)) :
    stored.get? path.place = some (.file contents) := by
  unfold store at h
  split at h
  · cases h
  · split at h
    · cases h
    · split at h
      · cases h
      · split at h
        · cases h
        · rename_i written hwritten
          cases h
          rw [get?_replace hwritten, if_pos rfl]

end Tree

namespace Local

theorem base_write (sink : Local) (path text : String) :
    (Sink.write sink path text).1.base = sink.base := by
  change (Local.write sink path text).1.base = _
  unfold Local.write
  split <;> rfl

theorem tree_write (sink : Local) (path text : String) :
    (Sink.write sink path text).1.tree =
      (sink.tree.store (sink.target path) text.toUTF8.toList).1 := by
  change (Local.write sink path text).1.tree = _
  unfold Local.write
  split <;> rename_i hstore <;> rw [hstore]

/-- A write that does not fail leaves a file at the place of its path. -/
theorem exists_file_of_write {sink : Local} {path text : String}
    (h : (Sink.write sink path text).2 = none) :
    ∃ contents, (Sink.write sink path text).1.tree.get? (sink.target path).place =
      some (.file contents) := by
  refine ⟨text.toUTF8.toList, ?_⟩
  rw [tree_write]
  change (Local.write sink path text).2 = none at h
  unfold Local.write at h
  split at h
  · cases h
  · rename_i hstore
    rw [hstore]
    exact Tree.get?_store hstore

end Local

/-- Writing to a sink changes its tree at the places of the files and on the way to them. -/
theorem grownAt_written (sink : Local) (writes : List (String × String)) :
    (written sink writes).base = sink.base ∧
      Tree.GrownAt (fun place => ∃ w ∈ writes, place = (sink.target w.1).place)
        (fun place => ∃ w ∈ writes, (sink.target w.1).parent.Passes place)
        sink.tree (written sink writes).tree := by
  induction writes generalizing sink with
  | nil => exact ⟨rfl, .refl sink.tree⟩
  | cons w writes ih =>
      obtain ⟨hbase, hgrown⟩ := ih (Sink.write sink w.1 w.2).1
      have hfirst := Local.base_write sink w.1 w.2
      have htarget : ∀ path, (Sink.write sink w.1 w.2).1.target path = sink.target path :=
        fun path => congrArg (fun base : Path => base.join (.ofString path)) hfirst
      simp only [htarget] at hgrown
      have hstored : Tree.GrownAt
          (fun place => ∃ later ∈ w :: writes, place = (sink.target later.1).place)
          (fun place => ∃ later ∈ w :: writes, (sink.target later.1).parent.Passes place)
          sink.tree (Sink.write sink w.1 w.2).1.tree := by
        rw [Local.tree_write]
        refine (Tree.grownAt_store _ _ _).mono ?_ ?_
        · exact fun place hplace => ⟨w, List.mem_cons_self .., hplace⟩
        · exact fun place hplace => ⟨w, List.mem_cons_self .., hplace⟩
      refine ⟨hbase.trans hfirst, hstored.trans (hgrown.mono ?_ ?_)⟩
      · rintro place ⟨later, hlater, hplace⟩
        exact ⟨later, List.mem_cons_of_mem _ hlater, hplace⟩
      · rintro place ⟨later, hlater, hplace⟩
        exact ⟨later, List.mem_cons_of_mem _ hlater, hplace⟩

end Storage
end ErdSql
