import ErdSql.Proofs.Addresses
import Mathlib.Data.List.Dedup
import Mathlib.Data.Set.Card
import Mathlib.Logic.Function.Basic

/-!
# What an index knows

An index is filled while the tree of a project is walked in pre-order: each element is entered
under its identity, in one map itself and in another map its owner, and takes the place of what was
entered under that identity before.  Identities may be repeated anywhere.  What the index gives for
an identity is the last element with it, and as the owner of that element the one that owns it
where it stands last.
-/

namespace ErdSql

/-- The two maps under construction. -/
structure Registry where
  elements : ElementId → Option Node
  owners : ElementId → Option Node

namespace Registry

def empty : Registry :=
  ⟨fun _ => none, fun _ => none⟩

/-- With an element entered under its identity; the owners stay as they are if it has none. -/
def enter (registry : Registry) (placement : Placement) : Registry where
  elements := Function.update registry.elements placement.node.id (some placement.node)
  owners :=
    match placement.owner with
    | some owner => Function.update registry.owners placement.node.id (some owner)
    | none => registry.owners

/-- With an element entered, and after it all that is below it. -/
def register (registry : Registry) (node : Node) (owner : Option Node) : Registry :=
  node.owned.attach.foldl (fun registry child => registry.register child.1 (some node))
    (registry.enter ⟨node, owner⟩)
termination_by node.rank
decreasing_by exact Node.rank_lt_of_mem_owned child.2

def ofProject (project : Project) : Registry :=
  empty.register (.project project) none

theorem register_eq (registry : Registry) (node : Node) (owner : Option Node) :
    registry.register node owner =
      node.owned.foldl (fun registry child => registry.register child (some node))
        (registry.enter ⟨node, owner⟩) := by
  rw [register]
  exact List.foldl_attach (f := fun registry child => Registry.register registry child (some node))

/-- Elements are entered in the order in which the index lists them. -/
theorem foldl_register {owner : Node} {place : Nat} {placements : List Placement}
    (h : Index.Lists owner place placements) (registry : Registry) :
    (owner.owned.drop place).foldl (fun registry child => registry.register child (some owner))
        registry =
      placements.foldl enter registry := by
  induction h generalizing registry with
  | nil hlength => rw [List.drop_eq_nil_of_le hlength]; rfl
  | @cons owner node place below later hnode _ _ ihbelow ihlater =>
      obtain ⟨hplace, rfl⟩ := List.getElem?_eq_some_iff.1 hnode
      rw [List.drop_eq_getElem_cons hplace, List.foldl_cons, register_eq, List.foldl_cons,
        List.foldl_append, ← ihbelow, ← ihlater, List.drop_zero]

theorem ofProject_eq (project : Project) :
    ofProject project = (Index.ofProject project).placements.foldl enter empty := by
  have hbelow := foldl_register (Index.lists_project project) (empty.enter ⟨.project project, none⟩)
  rw [List.drop_zero] at hbelow
  rw [ofProject, register_eq, hbelow]
  rfl

/-- The two maps in step: each gives what was entered last. -/
theorem foldl_enter (placements : List Placement) (id : ElementId) :
    (placements.foldl enter empty).elements id = Index.get? ⟨placements⟩ id ∧
      (placements.foldl enter empty).owners id = Index.ownerOf? ⟨placements⟩ id := by
  induction placements using List.reverseRecOn with
  | nil => exact ⟨rfl, rfl⟩
  | append_singleton placements placement ih =>
      obtain ⟨helements, howners⟩ := ih
      obtain ⟨node, owner⟩ := placement
      rw [List.foldl_append, List.foldl_cons, List.foldl_nil]
      unfold Index.get? Index.ownerOf? enter at *
      rw [List.reverse_append, List.reverse_singleton, List.singleton_append, List.find?_cons,
        List.find?_cons]
      by_cases hid : node.id = id
      · subst hid
        cases owner with
        | none => simpa using howners
        | some owner => simp
      · have hne : (node.id == id) = false := beq_eq_false_iff_ne.2 hid
        cases owner with
        | none => simpa [hne, Function.update_of_ne (Ne.symm hid)] using ⟨helements, howners⟩
        | some owner => simpa [hne, Function.update_of_ne (Ne.symm hid)] using ⟨helements, howners⟩

theorem ofProject_answers (project : Project) (id : ElementId) :
    (ofProject project).elements id = (Index.ofProject project).get? id ∧
      (ofProject project).owners id = (Index.ofProject project).ownerOf? id := by
  rw [ofProject_eq]
  exact foldl_enter _ id

end Registry

namespace Index

section Lookups

variable {project : Project} {id : ElementId} {address : List Nat}

theorem find?_reverse_of_split {α : Type} {test : α → Bool} {earlier later : List α} {a : α}
    (ha : test a = true) (hlater : ∀ other ∈ later, test other = false) :
    (earlier ++ a :: later).reverse.find? test = some a := by
  have hnone : later.reverse.find? test = none := by
    refine List.find?_eq_none.2 fun other hother => ?_
    rw [hlater other (List.mem_reverse.1 hother)]
    exact Bool.false_ne_true
  rw [List.reverse_append, List.reverse_cons, List.append_assoc, List.find?_append, hnone,
    Option.none_or, List.singleton_append, List.find?_cons_of_pos ha]

/-- The index gives the last element with an identity. -/
theorem get?_of_isLast (h : project.IsLast id address) :
    (ofProject project).get? id = (Node.project project).at? address := by
  obtain ⟨earlier, placement, later, hsplit, hnode, -, hid, hlater⟩ := exists_split_of_isLast h
  have hfound : (ofProject project).placements.reverse.find? (fun p => p.node.id == id) =
      some placement := by
    rw [hsplit]
    exact find?_reverse_of_split (beq_iff_eq.2 hid) fun other hother =>
      beq_eq_false_iff_ne.2 (hlater other hother)
  rw [get?, hfound, hnode]
  rfl

/-- The index gives the owner that an element has where its identity stands last. -/
theorem ownerOf?_of_isLast (h : project.IsLast id address) :
    (ofProject project).ownerOf? id = (Node.project project).ownerAt? address := by
  obtain ⟨earlier, placement, later, hsplit, -, howner, hid, hlater⟩ := exists_split_of_isLast h
  cases habove : (Node.project project).ownerAt? address with
  | some owner =>
      rw [habove] at howner
      have hfound : (ofProject project).placements.reverse.find?
          (fun p => p.node.id == id && p.owner.isSome) = some placement := by
        rw [hsplit]
        refine find?_reverse_of_split ?_ fun other hother => ?_
        · rw [beq_iff_eq.2 hid, howner]
          rfl
        · rw [beq_eq_false_iff_ne.2 (hlater other hother), Bool.false_and]
      rw [ownerOf?, hfound, Option.bind_some, howner]
  | none =>
      -- only the project has no owner, and what comes before it is nothing
      have haddress : address = [] := by
        by_contra hbelow
        obtain ⟨node, hnode, -⟩ := h.holds
        obtain ⟨owner, howner, -⟩ := Node.exists_ownerAt? hnode hbelow
        rw [habove] at howner
        cases howner
      have hnone : (ofProject project).placements.reverse.find?
          (fun p => p.node.id == id && p.owner.isSome) = none := by
        refine List.find?_eq_none.2 fun other hother hfound => ?_
        rw [Bool.and_eq_true, beq_iff_eq] at hfound
        obtain ⟨place, hnode, howner⟩ := exists_address_of_mem (List.mem_reverse.1 hother)
        have hplace : place = [] := by
          have hle := h.last place other.node hnode hfound.1
          rw [haddress] at hle
          cases place with
          | nil => rfl
          | cons first rest => exact absurd (List.nil_lt_cons first rest) (not_lt.2 hle)
        rw [howner, hplace] at hfound
        exact Bool.false_ne_true hfound.2
      rw [ownerOf?, hnone, Option.bind_none]

theorem exists_isLast_of_get? {node : Node} (h : (ofProject project).get? id = some node) :
    ∃ address, project.IsLast id address ∧ (Node.project project).at? address = some node := by
  obtain ⟨placement, hfound, rfl⟩ := Option.map_eq_some_iff.1 h
  obtain ⟨place, hnode, -⟩ :=
    exists_address_of_mem (List.mem_reverse.1 (List.mem_of_find?_eq_some hfound))
  have hid := List.find?_some hfound
  obtain ⟨address, hlast⟩ := exists_isLast hnode
  rw [beq_iff_eq.1 hid] at hlast
  exact ⟨address, hlast, (get?_of_isLast hlast).symm.trans h⟩

theorem get?_eq_none_iff :
    (ofProject project).get? id = none ↔
      ∀ address node, (Node.project project).at? address = some node → node.id ≠ id := by
  constructor
  · rintro hnone address node hnode rfl
    obtain ⟨last, hlast⟩ := exists_isLast hnode
    obtain ⟨found, hfound, -⟩ := hlast.holds
    rw [get?_of_isLast hlast, hfound] at hnone
    cases hnone
  · intro h
    cases hfound : (ofProject project).get? id with
    | none => rfl
    | some node =>
        obtain ⟨address, hlast, hnode⟩ := exists_isLast_of_get? hfound
        obtain ⟨found, hholds, hid⟩ := hlast.holds
        exact absurd hid (h address found hholds)

theorem exists_entity_of_mem_owned {owner : Node} {column : Column}
    (h : .column column ∈ owner.owned) :
    ∃ entity, owner = .entity entity ∧ column ∈ entity.columns := by
  cases owner with
  | entity entity =>
      obtain ⟨found, hfound, heq⟩ := List.mem_map.1 h
      exact ⟨entity, rfl, Node.column.inj heq ▸ hfound⟩
  | dataModel dataModel =>
      obtain ⟨member, -, heq⟩ := List.mem_map.1 h
      cases member <;> cases heq
  | project project =>
      obtain ⟨_, -, heq⟩ := List.mem_map.1 h
      cases heq
  | diagram diagram =>
      obtain ⟨_, -, heq⟩ := List.mem_map.1 h
      cases heq
  | column column => cases h

/-- A column that the index gives is owned by an entity that has it. -/
theorem exists_entity_of_column? {column : Column}
    (h : (ofProject project).column? id = some column) :
    ∃ entity, (ofProject project).owner? (.column column) = some (.entity entity) ∧
      column ∈ entity.columns := by
  have hget : (ofProject project).get? id = some (.column column) := by
    unfold column? at h
    split at h
    · rename_i found hfound
      obtain rfl : found = column := Option.some.inj h
      exact hfound
    · cases h
  obtain ⟨address, hlast, hnode⟩ := exists_isLast_of_get? hget
  have hbelow : address ≠ [] := by
    rintro rfl
    cases hnode
  obtain ⟨owner, howner, hmem⟩ := Node.exists_ownerAt? hnode hbelow
  have hid : column.id = id := by
    obtain ⟨found, hfound, hid⟩ := hlast.holds
    rwa [Option.some.inj (hfound.symm.trans hnode)] at hid
  obtain ⟨entity, rfl, hcolumn⟩ := exists_entity_of_mem_owned hmem
  refine ⟨entity, ?_, hcolumn⟩
  change (ofProject project).ownerOf? column.id = _
  rw [hid, ownerOf?_of_isLast hlast, howner]

theorem ids_eq_dedup (index : Index) : index.ids = (index.placements.map (·.node.id)).dedup := by
  unfold ids
  induction index.placements.map (·.node.id) with
  | nil => rfl
  | cons id rest ih =>
      rw [List.foldr_cons, ih]
      by_cases hmem : id ∈ rest
      · rw [List.dedup_cons_of_mem hmem, if_pos (List.mem_dedup.2 hmem)]
      · rw [List.dedup_cons_of_notMem hmem, if_neg (mt List.mem_dedup.1 hmem)]

/-- The size of the index is the number of identities of elements. -/
theorem size_eq_ncard (project : Project) :
    (ofProject project).size =
      {id | ∃ address node, (Node.project project).at? address = some node ∧
        node.id = id}.ncard := by
  have hset : {id | ∃ address node, (Node.project project).at? address = some node ∧
      node.id = id} = ↑((ofProject project).placements.map (·.node.id)).toFinset := by
    ext id
    rw [Finset.mem_coe, List.mem_toFinset, List.mem_map]
    constructor
    · rintro ⟨address, node, hnode, hid⟩
      obtain ⟨owner, hmem⟩ := exists_placement_of_at? hnode
      exact ⟨_, hmem, hid⟩
    · rintro ⟨placement, hmem, hid⟩
      obtain ⟨address, hnode, -⟩ := exists_address_of_mem hmem
      exact ⟨address, _, hnode, hid⟩
  rw [hset, Set.ncard_coe_finset, List.card_toFinset, size, ids_eq_dedup]

end Lookups

/-- The maps that are filled while a project is walked, and with them the index, answer for each
identity with the last element that has it, whatever identities are repeated: with the element, and
with the owner that it has there.  The size counts the identities, and a column that is found has
its entity for its owner. -/
theorem answers_ofProject (project : Project) :
    (∀ id, (Registry.ofProject project).elements id = (ofProject project).get? id ∧
      (Registry.ofProject project).owners id = (ofProject project).ownerOf? id) ∧
    (∀ id node, (ofProject project).get? id = some node ↔
      ∃ address, project.IsLast id address ∧ (Node.project project).at? address = some node) ∧
    (∀ id, (ofProject project).get? id = none ↔
      ∀ address node, (Node.project project).at? address = some node → node.id ≠ id) ∧
    (ofProject project).size =
      {id | ∃ address node, (Node.project project).at? address = some node ∧
        node.id = id}.ncard ∧
    (∀ id address, project.IsLast id address →
      ((ofProject project).get? id).bind (ofProject project).owner? =
        if address = [] then none else (Node.project project).at? address.dropLast) ∧
    ∀ id column, (ofProject project).column? id = some column →
      ∃ entity, (ofProject project).owner? (.column column) = some (.entity entity) ∧
        column ∈ entity.columns := by
  refine ⟨Registry.ofProject_answers project, fun id node => ⟨exists_isLast_of_get?, ?_⟩,
    fun id => get?_eq_none_iff, size_eq_ncard project, fun id address hlast => ?_,
    fun id column => exists_entity_of_column?⟩
  · rintro ⟨address, hlast, hnode⟩
    exact (get?_of_isLast hlast).trans hnode
  · obtain ⟨node, hnode, rfl⟩ := hlast.holds
    rw [get?_of_isLast hlast, hnode, Option.bind_some]
    exact ownerOf?_of_isLast hlast

-- a column with the identity of a later entity is lost
example :
    let refund : Entity := { id := .named "x", name := "Refund" }
    let purchase : Entity := { id := .named "p", columns := [{ id := .named "x" }] }
    let sales : DataModel := { id := .named "m", members := [.entity purchase, .entity refund] }
    let index := ofProject { id := .named "shop", dataModels := [sales] }
    index.get? (.named "x") = some (.entity refund) ∧ index.column? (.named "x") = none ∧
      index.ownerOf? (.named "x") = some (.dataModel sales) ∧ index.size = 4 :=
  ⟨rfl, rfl, rfl, rfl⟩

end Index
end ErdSql
