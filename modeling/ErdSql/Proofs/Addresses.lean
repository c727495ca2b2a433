import ErdSql.Model.Index
import Mathlib.Data.List.Lex
import Mathlib.Data.Set.Finite.Lemmas

/-!
# Addresses of elements

An element of a project stands at an address: the places of the elements to go through, one for
each level of the tree.  Addresses are compared like the words of a dictionary, so that their order
is the pre-order of the tree: an element comes before what is below it, and all that is below it
comes before its next sibling.  The index lists the elements of a project, each once, in the order
of their addresses.
-/

namespace ErdSql

namespace Node

/-- The elements that an element owns, in order. -/
def owned : Node → List Node
  | .project p => p.dataModels.map .dataModel
  | .dataModel m => m.members.map Member.node
  | .diagram d => d.entities.map .entity
  | .entity e => e.columns.map .column
  | .column _ => []

/-- How far up in the tree elements of a kind can stand. -/
def rank : Node → Nat
  | .project _ => 4
  | .dataModel _ => 3
  | .diagram _ => 2
  | .entity _ => 1
  | .column _ => 0

theorem rank_lt_of_mem_owned {node child : Node} (h : child ∈ node.owned) :
    child.rank < node.rank := by
  cases node with
  | project p =>
      obtain ⟨m, -, rfl⟩ := List.mem_map.1 h
      exact Nat.lt_succ_self 3
  | dataModel m =>
      obtain ⟨member, -, rfl⟩ := List.mem_map.1 h
      cases member with
      | diagram d => exact Nat.lt_succ_self 2
      | entity e => exact Nat.lt_of_succ_lt (Nat.lt_succ_self 2)
  | diagram d =>
      obtain ⟨e, -, rfl⟩ := List.mem_map.1 h
      exact Nat.lt_succ_self 1
  | entity e =>
      obtain ⟨c, -, rfl⟩ := List.mem_map.1 h
      exact Nat.lt_succ_self 0
  | column c => cases h

/-- The element at an address, which leads down from the given element. -/
def at? : Node → List Nat → Option Node
  | node, [] => some node
  | node, place :: rest => (node.owned[place]?).bind fun child => child.at? rest

/-- The element that owns the one at an address; the element that addresses lead down from has no
owner. -/
def ownerAt? (root : Node) (address : List Nat) : Option Node :=
  if address = [] then none else root.at? address.dropLast

theorem at?_append (node : Node) (address more : List Nat) :
    node.at? (address ++ more) = (node.at? address).bind (·.at? more) := by
  induction address generalizing node with
  | nil => rfl
  | cons place rest ih =>
      rw [List.cons_append, at?, at?, Option.bind_assoc]
      exact congrArg (node.owned[place]?).bind (funext ih)

theorem at?_concat (node : Node) (address : List Nat) (place : Nat) :
    node.at? (address ++ [place]) = (node.at? address).bind (·.owned[place]?) := by
  have hlast : ∀ above : Node, above.at? [place] = above.owned[place]? :=
    fun above => Option.bind_fun_some _
  rw [at?_append]
  exact congrArg (node.at? address).bind (funext hlast)

theorem ownerAt?_concat (root : Node) (address : List Nat) (place : Nat) :
    root.ownerAt? (address ++ [place]) = root.at? address := by
  rw [ownerAt?, if_neg (by simp), List.dropLast_concat]

/-- An element below another one has an owner, and is owned by it. -/
theorem exists_ownerAt? {root node : Node} {address : List Nat}
    (h : root.at? address = some node) (hbelow : address ≠ []) :
    ∃ owner, root.ownerAt? address = some owner ∧ node ∈ owner.owned := by
  obtain ⟨above, place, rfl⟩ := (List.eq_nil_or_concat address).resolve_left hbelow
  rw [List.concat_eq_append] at h ⊢
  rw [at?_concat] at h
  obtain ⟨owner, howner, hplace⟩ := Option.bind_eq_some_iff.1 h
  exact ⟨owner, (ownerAt?_concat root above place).trans howner, List.mem_of_getElem? hplace⟩

theorem rank_at? {node found : Node} {address : List Nat} (h : node.at? address = some found) :
    found.rank + address.length ≤ node.rank := by
  induction address generalizing node with
  | nil =>
      obtain rfl : node = found := Option.some.inj h
      exact Nat.le_refl _
  | cons place rest ih =>
      obtain ⟨child, hchild, hfound⟩ := Option.bind_eq_some_iff.1 h
      have hbelow := ih hfound
      have hrank := rank_lt_of_mem_owned (List.mem_of_getElem? hchild)
      rw [List.length_cons]
      omega

end Node

section Order

/-- What comes between an address and one below it is below it, too. -/
theorem isPrefix_of_between {address other more : List Nat} (hlow : address ≤ other)
    (hhigh : other ≤ address ++ more) : address <+: other := by
  induction address generalizing other with
  | nil => exact List.nil_prefix
  | cons place rest ih =>
      rw [← not_lt] at hlow hhigh
      cases other with
      | nil => exact absurd (List.nil_lt_cons place rest) hlow
      | cons place' rest' =>
          rw [List.cons_append] at hhigh
          rw [List.cons_lt_cons_iff, not_or, not_and, not_lt] at hlow hhigh
          obtain rfl : place = place' := le_antisymm hlow.1 hhigh.1
          have hrest := ih (not_lt.1 (hlow.2 rfl)) (not_lt.1 (hhigh.2 rfl))
          exact List.cons_prefix_cons.2 ⟨rfl, hrest⟩

end Order

namespace Index

/-- The placements are what an element owns from the given place on, each with all that is below
it. -/
inductive Lists : Node → Nat → List Placement → Prop
  | nil {owner : Node} {place : Nat} (h : owner.owned.length ≤ place) : Lists owner place []
  | cons {owner node : Node} {place : Nat} {below later : List Placement}
      (hnode : owner.owned[place]? = some node) (hbelow : Lists node 0 below)
      (hlater : Lists owner (place + 1) later) :
      Lists owner place (⟨node, some owner⟩ :: (below ++ later))

section Lists

theorem lists_of_drop {α : Type} {owner : Node} {items : List α} {node : α → Node}
    {below : α → List Placement} (hbelow : ∀ item ∈ items, Lists (node item) 0 (below item))
    {place : Nat} (howned : owner.owned.drop place = items.map node) :
    Lists owner place (items.flatMap fun item => ⟨node item, some owner⟩ :: below item) := by
  induction items generalizing place with
  | nil => exact .nil (List.drop_eq_nil_iff.1 howned)
  | cons item items ih =>
      have hnode : owner.owned[place]? = some (node item) := by
        rw [← Nat.add_zero place, ← List.getElem?_drop, howned]
        rfl
      have hrest : owner.owned.drop (place + 1) = items.map node := by
        rw [← List.tail_drop, howned]
        rfl
      exact .cons hnode (hbelow item (List.mem_cons_self ..))
        (ih (fun other hother => hbelow other (List.mem_cons_of_mem _ hother)) hrest)

/-- Placements are listed level by level: those of the items that are owned, each followed by what
is below it. -/
theorem lists_flatMap {α : Type} {owner : Node} {items : List α} {node : α → Node}
    {below : α → List Placement} (hbelow : ∀ item ∈ items, Lists (node item) 0 (below item))
    (howned : owner.owned = items.map node) :
    Lists owner 0 (items.flatMap fun item => ⟨node item, some owner⟩ :: below item) :=
  lists_of_drop hbelow howned

theorem lists_entity (entity : Entity) :
    Lists (.entity entity) 0
      (entity.columns.map fun column => ⟨.column column, some (.entity entity)⟩) := by
  have hcolumns : Lists (.entity entity) 0
      (entity.columns.flatMap fun column => [⟨.column column, some (.entity entity)⟩]) :=
    lists_flatMap (fun _ _ => .nil (Nat.le_refl 0)) rfl
  have hmap := List.flatMap_pure_eq_map
    (fun column : Column => (⟨.column column, some (.entity entity)⟩ : Placement)) entity.columns
  exact hmap ▸ hcolumns

theorem lists_diagram (diagram : Diagram) :
    Lists (.diagram diagram) 0 (diagram.entities.flatMap (ofEntity (.diagram diagram))) :=
  lists_flatMap (fun entity _ => lists_entity entity) rfl

theorem lists_dataModel (dataModel : DataModel) :
    Lists (.dataModel dataModel) 0
      (dataModel.members.flatMap (ofMember (.dataModel dataModel))) := by
  have hmember : ∀ member : Member, ofMember (.dataModel dataModel) member =
      ⟨member.node, some (.dataModel dataModel)⟩ ::
        (ofMember (.dataModel dataModel) member).tail := by
    rintro (diagram | entity) <;> rfl
  rw [funext hmember]
  refine lists_flatMap (fun member _ => ?_) rfl
  cases member with
  | diagram diagram => exact lists_diagram diagram
  | entity entity => exact lists_entity entity

theorem lists_project (project : Project) :
    Lists (.project project) 0
      (project.dataModels.flatMap (ofDataModel (.project project))) :=
  lists_flatMap (fun dataModel _ => lists_dataModel dataModel) rfl

end Lists

/-- The address starts with the given place or a later one. -/
def StartsFrom (place : Nat) (address : List Nat) : Prop :=
  ∃ first rest, address = first :: rest ∧ place ≤ first

/-- Placements with their addresses, in the order of the addresses; all that are covered and lead
to an element are there. -/
structure Listing (root : Node) (Covered : List Nat → Prop)
    (entries : List (List Nat × Placement)) : Prop where
  node : ∀ entry ∈ entries, root.at? entry.1 = some entry.2.node
  above : ∀ entry ∈ entries, entry.2.owner = root.ownerAt? entry.1
  sorted : entries.Pairwise fun entry later => entry.1 < later.1
  covered : ∀ entry ∈ entries, Covered entry.1
  complete : ∀ address node, Covered address → root.at? address = some node →
    ∃ placement, (address, placement) ∈ entries

section Listing

theorem listing_nil {owner : Node} {place : Nat} (h : owner.owned.length ≤ place) :
    Listing owner (StartsFrom place) [] where
  node := List.forall_mem_nil _
  above := List.forall_mem_nil _
  sorted := .nil
  covered := List.forall_mem_nil _
  complete := by
    rintro address found ⟨first, rest, rfl, hfirst⟩ hfound
    obtain ⟨child, hchild, -⟩ := Option.bind_eq_some_iff.1 hfound
    rw [List.getElem?_eq_none (h.trans hfirst)] at hchild
    cases hchild

/-- The entry of an element is followed by those below it, whose addresses are longer by its place,
and by those of its later siblings. -/
theorem Listing.cons {owner node : Node} {place : Nat} {inner outer : List (List Nat × Placement)}
    (hnode : owner.owned[place]? = some node) (hinner : Listing node (StartsFrom 0) inner)
    (houter : Listing owner (StartsFrom (place + 1)) outer) :
    Listing owner (StartsFrom place)
      (([place], ⟨node, some owner⟩) ::
        (inner.map (fun entry => (place :: entry.1, entry.2)) ++ outer)) := by
  have hdown : ∀ address, owner.at? (place :: address) = node.at? address := by
    intro address
    rw [Node.at?, hnode, Option.bind_some]
  constructor
  · rw [List.forall_mem_cons, List.forall_mem_append, List.forall_mem_map]
    exact ⟨hdown [], fun entry hentry => (hdown entry.1).trans (hinner.node entry hentry),
      houter.node⟩
  · rw [List.forall_mem_cons, List.forall_mem_append, List.forall_mem_map]
    refine ⟨rfl, fun entry hentry => ?_, houter.above⟩
    obtain ⟨first, rest, hstart, -⟩ := hinner.covered entry hentry
    rw [hinner.above entry hentry, hstart]
    exact (hdown _).symm
  · have hbefore : ∀ address, ∀ entry ∈ outer, place :: address < entry.1 := by
      intro address entry hentry
      obtain ⟨first, rest, hstart, hfirst⟩ := houter.covered entry hentry
      rw [hstart]
      exact List.cons_lt_cons_iff.2 (Or.inl hfirst)
    rw [List.pairwise_cons, List.pairwise_append, List.pairwise_map, List.forall_mem_append,
      List.forall_mem_map, List.forall_mem_map]
    refine ⟨⟨fun entry hentry => ?_, hbefore []⟩, ?_, houter.sorted,
      fun entry _ => hbefore entry.1⟩
    · obtain ⟨first, rest, hstart, -⟩ := hinner.covered entry hentry
      rw [hstart]
      exact List.cons_lt_cons_iff.2 (Or.inr ⟨rfl, List.nil_lt_cons first rest⟩)
    · exact hinner.sorted.imp fun hlt => List.cons_lt_cons_iff.2 (Or.inr ⟨rfl, hlt⟩)
  · rw [List.forall_mem_cons, List.forall_mem_append, List.forall_mem_map]
    refine ⟨⟨place, [], rfl, Nat.le_refl _⟩,
      fun entry _ => ⟨place, entry.1, rfl, Nat.le_refl _⟩, fun entry hentry => ?_⟩
    obtain ⟨first, rest, hstart, hfirst⟩ := houter.covered entry hentry
    exact ⟨first, rest, hstart, Nat.le_of_succ_le hfirst⟩
  · rintro address found ⟨first, rest, rfl, hfirst⟩ hfound
    rcases Nat.eq_or_lt_of_le hfirst with rfl | hfirst
    · rw [hdown] at hfound
      cases rest with
      | nil => exact ⟨_, List.mem_cons_self ..⟩
      | cons second rest =>
          obtain ⟨placement, hmem⟩ := hinner.complete (second :: rest) found
            ⟨second, rest, rfl, Nat.zero_le _⟩ hfound
          refine ⟨placement, List.mem_cons_of_mem _ (List.mem_append_left _ ?_)⟩
          exact List.mem_map_of_mem hmem
    · obtain ⟨placement, hmem⟩ :=
        houter.complete (first :: rest) found ⟨first, rest, rfl, hfirst⟩ hfound
      exact ⟨placement, List.mem_cons_of_mem _ (List.mem_append_right _ hmem)⟩

theorem exists_listing_of_lists {owner : Node} {place : Nat} {placements : List Placement}
    (h : Lists owner place placements) :
    ∃ entries, entries.map (·.2) = placements ∧ Listing owner (StartsFrom place) entries := by
  induction h with
  | nil hlength => exact ⟨[], rfl, listing_nil hlength⟩
  | cons hnode _ _ ihbelow ihlater =>
      obtain ⟨inner, rfl, hinner⟩ := ihbelow
      obtain ⟨outer, rfl, houter⟩ := ihlater
      exact ⟨_, by simp [Function.comp_def], hinner.cons hnode houter⟩

/-- The index lists the elements of a project in the order of their addresses. -/
theorem exists_listing (project : Project) :
    ∃ entries, entries.map (·.2) = (ofProject project).placements ∧
      Listing (.project project) (fun _ => True) entries := by
  obtain ⟨entries, hplacements, hlisting⟩ := exists_listing_of_lists (lists_project project)
  refine ⟨([], ⟨.project project, none⟩) :: entries, ?_, ?_, ?_, ?_, fun _ _ => trivial, ?_⟩
  · rw [List.map_cons, hplacements]
    rfl
  · exact List.forall_mem_cons.2 ⟨rfl, hlisting.node⟩
  · exact List.forall_mem_cons.2 ⟨rfl, hlisting.above⟩
  · refine List.pairwise_cons.2 ⟨fun entry hentry => ?_, hlisting.sorted⟩
    obtain ⟨first, rest, hstart, -⟩ := hlisting.covered entry hentry
    rw [hstart]
    exact List.nil_lt_cons first rest
  · intro address node _ hnode
    cases address with
    | nil => exact ⟨_, List.mem_cons_self ..⟩
    | cons first rest =>
        obtain ⟨placement, hmem⟩ := hlisting.complete (first :: rest) node
          ⟨first, rest, rfl, Nat.zero_le _⟩ hnode
        exact ⟨placement, List.mem_cons_of_mem _ hmem⟩

/-- What is placed stands at an address, below its owner. -/
theorem exists_address_of_mem {project : Project} {placement : Placement}
    (h : placement ∈ (ofProject project).placements) :
    ∃ address, (Node.project project).at? address = some placement.node ∧
      placement.owner = (Node.project project).ownerAt? address := by
  obtain ⟨entries, hplacements, hlisting⟩ := exists_listing project
  rw [← hplacements] at h
  obtain ⟨entry, hentry, rfl⟩ := List.mem_map.1 h
  exact ⟨entry.1, hlisting.node entry hentry, hlisting.above entry hentry⟩

/-- What stands at an address is placed. -/
theorem exists_placement_of_at? {project : Project} {address : List Nat} {node : Node}
    (h : (Node.project project).at? address = some node) :
    ∃ owner, ⟨node, owner⟩ ∈ (ofProject project).placements := by
  obtain ⟨entries, hplacements, hlisting⟩ := exists_listing project
  obtain ⟨placement, hmem⟩ := hlisting.complete address node trivial h
  have hnode : node = placement.node := Option.some.inj (h.symm.trans (hlisting.node _ hmem))
  rw [← hplacements, hnode]
  exact ⟨placement.owner, List.mem_map_of_mem hmem⟩

end Listing
end Index

/-- Of all elements of the project with the identity, the one at the address comes last. -/
structure Project.IsLast (project : Project) (id : ElementId) (address : List Nat) : Prop where
  holds : ∃ node, (Node.project project).at? address = some node ∧ node.id = id
  last : ∀ other node, (Node.project project).at? other = some node → node.id = id →
    other ≤ address

namespace Index

section Last

variable {project : Project} {id : ElementId} {address : List Nat}

/-- After the last element with an identity, the index lists none with it. -/
theorem exists_split_of_isLast (h : project.IsLast id address) :
    ∃ earlier placement later,
      (ofProject project).placements = earlier ++ placement :: later ∧
        (Node.project project).at? address = some placement.node ∧
        placement.owner = (Node.project project).ownerAt? address ∧
        placement.node.id = id ∧ ∀ other ∈ later, other.node.id ≠ id := by
  obtain ⟨entries, hplacements, hlisting⟩ := exists_listing project
  obtain ⟨node, hnode, hid⟩ := h.holds
  obtain ⟨placement, hmem⟩ := hlisting.complete address node trivial hnode
  have hplaced := hlisting.node _ hmem
  have hsorted := hlisting.sorted
  have hall := hlisting.node
  obtain ⟨earlier, later, hsplit⟩ := List.append_of_mem hmem
  rw [hsplit, List.pairwise_append, List.pairwise_cons] at hsorted
  refine ⟨earlier.map (·.2), placement, later.map (·.2), ?_, hplaced, hlisting.above _ hmem, ?_, ?_⟩
  · rw [← hplacements, hsplit, List.map_append, List.map_cons]
  · rw [← hid]
    exact congrArg Node.id (Option.some.inj (hplaced.symm.trans hnode))
  · rw [List.forall_mem_map]
    intro other hother hsame
    have hstands := hall other (hsplit ▸ List.mem_append_right _ (List.mem_cons_of_mem _ hother))
    exact not_lt.2 (h.last other.1 _ hstands hsame) (hsorted.2.1.1 other hother)

theorem finite_addresses (project : Project) :
    {address | ∃ node, (Node.project project).at? address = some node}.Finite := by
  obtain ⟨entries, -, hlisting⟩ := exists_listing project
  refine (entries.map (·.1)).finite_toSet.subset ?_
  rintro address ⟨node, hnode⟩
  obtain ⟨placement, hmem⟩ := hlisting.complete address node trivial hnode
  exact List.mem_map.2 ⟨_, hmem, rfl⟩

/-- Of the elements with the identity of an element, one comes last. -/
theorem exists_isLast {node : Node} (h : (Node.project project).at? address = some node) :
    ∃ last, project.IsLast node.id last := by
  have hfinite : {other | ∃ found, (Node.project project).at? other = some found ∧
      found.id = node.id}.Finite :=
    (finite_addresses project).subset fun _ ⟨found, hfound, _⟩ => ⟨found, hfound⟩
  obtain ⟨last, hholds, hlast⟩ := Set.exists_max_image _ id hfinite ⟨address, node, h, rfl⟩
  exact ⟨last, hholds, fun other found hfound hid => hlast other ⟨found, hfound, hid⟩⟩

end Last
end Index
end ErdSql
