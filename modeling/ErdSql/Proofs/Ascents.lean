import ErdSql.Proofs.Registration
import ErdSql.Proofs.SchemaCoverage
import Mathlib.Order.WellFoundedSet

/-!
# Ways up

From an element one can walk up, from owner to owner, until a data model is met or there is no
owner.  Owners are found by identity, so where identities are repeated a step may lead into another
part of the tree.  If no element has the identity of one above it, every walk ends all the same: from
the last element with an identity, the next elements are those above it, unless one of them stands
once more further on.  A walk that ends meets no identity twice, so the bounded walk of the index
comes to the same end.
-/

namespace ErdSql

/-- No element of the project has the identity of an element above it. -/
def Project.RepeatsNoneBelow (project : Project) : Prop :=
  ∀ address above, (Node.project project).at? address = some above →
    ∀ more below, more ≠ [] → above.at? more = some below → below.id ≠ above.id

namespace Node

theorem exists_dataModel_of_kind {node : Node} (h : node.kind = .dataModel) :
    ∃ found : DataModel, node = .dataModel found := by
  cases node with
  | dataModel found => exact ⟨found, rfl⟩
  | project _ => cases h
  | diagram _ => cases h
  | entity _ => cases h
  | column _ => cases h

/-- In so many levels from an element, no identity is one of the given ones, or one met further
up. -/
def AvoidsIds : Nat → List ElementId → Node → Prop
  | 0, _, _ => True
  | levels + 1, ids, node =>
      node.id ∉ ids ∧ ∀ child ∈ node.owned, AvoidsIds levels (node.id :: ids) child

instance decidableAvoidsIds :
    ∀ (levels : Nat) (ids : List ElementId) (node : Node), Decidable (AvoidsIds levels ids node)
  | 0, _, _ => isTrue trivial
  | levels + 1, ids, node =>
      have (child : Node) := decidableAvoidsIds levels (node.id :: ids) child
      inferInstanceAs (Decidable
        (node.id ∉ ids ∧ ∀ child ∈ node.owned, AvoidsIds levels (node.id :: ids) child))

theorem forall_below_iff {node : Node} {P : Node → Prop} :
    (∀ more below, more ≠ [] → node.at? more = some below → P below) ↔
      ∀ child ∈ node.owned, ∀ address below, child.at? address = some below → P below := by
  constructor
  · intro h child hmem address below hbelow
    obtain ⟨place, hplace⟩ := List.mem_iff_getElem?.1 hmem
    refine h (place :: address) below (List.cons_ne_nil _ _) ?_
    rw [at?, hplace, Option.bind_some, hbelow]
  · intro h more below hmore hbelow
    obtain ⟨place, rest, rfl⟩ := List.exists_cons_of_ne_nil hmore
    obtain ⟨child, hplace, hchild⟩ := Option.bind_eq_some_iff.1 hbelow
    exact h child (List.mem_of_getElem? hplace) rest below hchild

theorem forall_at?_iff {node : Node} {P : Node → Prop} :
    (∀ address below, node.at? address = some below → P below) ↔
      P node ∧ ∀ child ∈ node.owned, ∀ address below, child.at? address = some below → P below := by
  rw [← forall_below_iff]
  constructor
  · exact fun h => ⟨h [] node rfl, fun more below _ => h more below⟩
  · rintro ⟨hnode, hbelow⟩ address below hat
    by_cases haddress : address = []
    · subst haddress
      exact Option.some.inj hat ▸ hnode
    · exact hbelow address below haddress hat

theorem avoidsIds_iff {levels : Nat} {ids : List ElementId} {node : Node}
    (hlevels : node.rank < levels) :
    AvoidsIds levels ids node ↔
      (∀ address below, node.at? address = some below → below.id ∉ ids) ∧
      ∀ address above, node.at? address = some above →
        ∀ more below, more ≠ [] → above.at? more = some below → below.id ≠ above.id := by
  induction levels generalizing ids node with
  | zero => cases hlevels
  | succ levels ih =>
      have hchild : ∀ child ∈ node.owned,
          (AvoidsIds levels (node.id :: ids) child ↔ _) := fun child hmem =>
        ih ((rank_lt_of_mem_owned hmem).trans_le (Nat.le_of_lt_succ hlevels))
      rw [AvoidsIds, forall₂_congr hchild, forall_at?_iff, forall_at?_iff, forall_below_iff]
      simp only [List.mem_cons, not_or]
      constructor
      · rintro ⟨hnode, hbelow⟩
        exact ⟨⟨hnode, fun child hmem address below hat =>
            ((hbelow child hmem).1 address below hat).2⟩,
          fun child hmem address below hat => ((hbelow child hmem).1 address below hat).1,
          fun child hmem => (hbelow child hmem).2⟩
      · rintro ⟨⟨hnode, hids⟩, hself, hnone⟩
        exact ⟨hnode, fun child hmem => ⟨fun address below hat =>
          ⟨hself child hmem address below hat, hids child hmem address below hat⟩,
          hnone child hmem⟩⟩

end Node

theorem Project.repeatsNoneBelow_iff (project : Project) :
    project.RepeatsNoneBelow ↔ (Node.project project).AvoidsIds 5 [] := by
  rw [Node.avoidsIds_iff (Nat.lt_succ_self 4)]
  exact ⟨fun h => ⟨fun _ _ _ => List.not_mem_nil, h⟩, fun h => h.2⟩

instance (project : Project) : Decidable project.RepeatsNoneBelow :=
  decidable_of_iff _ project.repeatsNoneBelow_iff.symm

namespace Index

/-- Walking up from an element ends after so many steps: before a data model, or where there is no
owner. -/
inductive Climbs (index : Index) : Nat → Node → Option DataModel → Prop
  | top {node : Node} (howner : index.owner? node = none) : Climbs index 0 node none
  | arrive {node : Node} {dataModel : DataModel}
      (howner : index.owner? node = some (.dataModel dataModel)) :
      Climbs index 0 node (some dataModel)
  | step {steps : Nat} {node owner : Node} {result : Option DataModel}
      (howner : index.owner? node = some owner) (hkind : owner.kind ≠ .dataModel)
      (hrest : Climbs index steps owner result) : Climbs index (steps + 1) node result

section Bounded

variable {index : Index} {steps : Nat} {node : Node} {result : Option DataModel}

theorem owner?_congr {other : Node} (hid : node.id = other.id) :
    index.owner? node = index.owner? other :=
  congrArg index.ownerOf? hid

theorem exists_mem_placements_of_owner? {owner : Node} (h : index.owner? node = some owner) :
    ∃ placement ∈ index.placements, placement.node.id = node.id := by
  obtain ⟨placement, hfound, -⟩ := Option.bind_eq_some_iff.1 h
  have hid := List.find?_some hfound
  rw [Bool.and_eq_true, beq_iff_eq] at hid
  exact ⟨placement, List.mem_reverse.1 (List.mem_of_find?_eq_some hfound), hid.1⟩

/-- A walk goes the same way from all elements with one identity. -/
theorem Climbs.congr (h : index.Climbs steps node result) {other : Node}
    (hid : node.id = other.id) : index.Climbs steps other result := by
  cases h with
  | top howner => exact .top ((owner?_congr hid).symm.trans howner)
  | arrive howner => exact .arrive ((owner?_congr hid).symm.trans howner)
  | step howner hkind hrest => exact .step ((owner?_congr hid).symm.trans howner) hkind hrest

/-- There is only one way up. -/
theorem Climbs.unique (h : index.Climbs steps node result) {steps' : Nat}
    {result' : Option DataModel} (h' : index.Climbs steps' node result') :
    steps = steps' ∧ result = result' := by
  induction h generalizing steps' with
  | top howner =>
      cases h' with
      | top _ => exact ⟨rfl, rfl⟩
      | arrive howner' => cases howner.symm.trans howner'
      | step howner' _ _ => cases howner.symm.trans howner'
  | arrive howner =>
      cases h' with
      | top howner' => cases howner.symm.trans howner'
      | arrive howner' =>
          cases howner.symm.trans howner'
          exact ⟨rfl, rfl⟩
      | step howner' hkind _ =>
          cases howner.symm.trans howner'
          exact absurd rfl hkind
  | step howner hkind _ ih =>
      cases h' with
      | top howner' => cases howner.symm.trans howner'
      | arrive howner' =>
          cases howner.symm.trans howner'
          exact absurd rfl hkind
      | step howner' _ hrest' =>
          cases howner.symm.trans howner'
          obtain ⟨rfl, hresult⟩ := ih hrest'
          exact ⟨rfl, hresult⟩

/-- A walk that is back at the identity from which it started does not end. -/
theorem not_climbs_of_owner_id {owner : Node} (howner : index.owner? node = some owner)
    (hid : owner.id = node.id) (hkind : owner.kind ≠ .dataModel) :
    ¬ index.Climbs steps node result := by
  intro h
  cases h with
  | top howner' => cases howner.symm.trans howner'
  | arrive howner' =>
      cases howner.symm.trans howner'
      exact hkind rfl
  | step howner' hkind' hrest =>
      cases howner.symm.trans howner'
      obtain ⟨hsteps, -⟩ := (hrest.congr hid).unique (.step howner hkind hrest)
      omega

/-- A walk meets different identities of placed elements, one before each step; from each of them
there are not more steps to go. -/
theorem Climbs.exists_ids (h : index.Climbs steps node result) :
    ∃ ids : List ElementId, ids.length = steps ∧ ids.Nodup ∧
      ∀ id ∈ ids, id ∈ index.placements.map (·.node.id) ∧
        ∃ left ≤ steps, ∃ other last, other.id = id ∧ index.Climbs left other last := by
  induction h with
  | top _ => exact ⟨[], rfl, List.nodup_nil, List.forall_mem_nil _⟩
  | arrive _ => exact ⟨[], rfl, List.nodup_nil, List.forall_mem_nil _⟩
  | @step steps node owner result howner hkind hrest ih =>
      obtain ⟨ids, hlength, hnodup, hids⟩ := ih
      have hclimbs := Climbs.step howner hkind hrest
      refine ⟨node.id :: ids, congrArg (· + 1) hlength, List.nodup_cons.2 ⟨fun hmem => ?_, hnodup⟩,
        List.forall_mem_cons.2 ⟨⟨?_, steps + 1, Nat.le_refl _, node, result, rfl, hclimbs⟩,
          fun id hid => ?_⟩⟩
      · -- from the identity of the element there is one step more to go than from its owner
        obtain ⟨-, left, hleft, other, last, hid, hother⟩ := hids node.id hmem
        obtain ⟨hsteps, -⟩ := hclimbs.unique (hother.congr hid)
        omega
      · exact List.mem_map.2 (exists_mem_placements_of_owner? howner)
      · obtain ⟨hmem, left, hleft, hother⟩ := hids id hid
        exact ⟨hmem, left, Nat.le_succ_of_le hleft, hother⟩

theorem Climbs.walkUp_eq (h : index.Climbs steps node result) {bound : Nat}
    (hbound : steps ≤ bound) : index.walkUp bound (index.owner? node) = result := by
  induction h generalizing bound with
  | top howner =>
      rw [howner]
      cases bound <;> rfl
  | arrive howner =>
      rw [howner]
      exact walkUp_dataModel index bound _
  | @step steps node owner result howner hkind _ ih =>
      obtain ⟨bound, rfl⟩ : ∃ less, bound = less + 1 := ⟨bound - 1, by omega⟩
      rw [howner]
      cases owner with
      | dataModel dataModel => exact absurd rfl hkind
      | project _ => exact ih (by omega)
      | diagram _ => exact ih (by omega)
      | entity _ => exact ih (by omega)
      | column _ => exact ih (by omega)

/-- Where the walk from an element ends, the index comes to its end. -/
theorem Climbs.dataModelOf?_eq (h : index.Climbs steps node result) :
    index.dataModelOf? node = result := by
  obtain ⟨ids, rfl, hnodup, hids⟩ := h.exists_ids
  refine h.walkUp_eq ?_
  have hsub := List.subperm_of_subset hnodup fun id hid => (hids id hid).1
  exact hsub.length_le.trans_eq (List.length_map _)

end Bounded

section Ends

variable {project : Project}

theorem exists_climbs_congr {index : Index} {node other : Node} (hid : node.id = other.id)
    (h : ∃ steps result, index.Climbs steps node result) :
    ∃ steps result, index.Climbs steps other result := by
  obtain ⟨steps, result, hclimbs⟩ := h
  exact ⟨steps, result, hclimbs.congr hid⟩

/-- A walk that ends from the owner of an element ends from the element. -/
theorem exists_climbs_of_owner {index : Index} {node owner : Node}
    (howner : index.owner? node = some owner)
    (h : ∃ steps result, index.Climbs steps owner result) :
    ∃ steps result, index.Climbs steps node result := by
  obtain ⟨steps, result, hclimbs⟩ := h
  by_cases hkind : owner.kind = .dataModel
  · obtain ⟨dataModel, rfl⟩ := Node.exists_dataModel_of_kind hkind
    exact ⟨0, some dataModel, .arrive howner⟩
  · exact ⟨steps + 1, result, .step howner hkind hclimbs⟩

/-- Where no identity is repeated below itself, an element that stands at an address or above it
either stands there last or stands once more after that address. -/
theorem isLast_or_further (hnone : project.RepeatsNoneBelow) {above address : List Nat}
    (habove : above <+: address) {node : Node}
    (hnode : (Node.project project).at? above = some node) :
    project.IsLast node.id above ∨ ∃ last, address < last ∧ ∃ found,
      (Node.project project).at? last = some found ∧ found.id = node.id := by
  obtain ⟨last, hlast⟩ := exists_isLast hnode
  by_cases hfurther : address < last
  · exact Or.inr ⟨last, hfurther, hlast.holds⟩
  · obtain ⟨rest, rfl⟩ := habove
    have hbetween : above <+: last :=
      isPrefix_of_between (hlast.last above node hnode rfl) (not_lt.1 hfurther)
    obtain ⟨more, rfl⟩ := hbetween
    obtain ⟨found, hfound, hid⟩ := hlast.holds
    rw [Node.at?_append, hnode] at hfound
    have hmore : more = [] := by
      by_contra hne
      exact hnone above node hnode more found hne hfound hid
    rw [hmore, List.append_nil] at hlast
    exact Or.inl hlast

/-- If all walks from further on end, so do those from an address and from all above it. -/
theorem exists_climbs_of_isPrefix (hnone : project.RepeatsNoneBelow) {above address : List Nat}
    (hfurther : ∀ last, address < last → ∀ node, (Node.project project).at? last = some node →
      ∃ steps result, (ofProject project).Climbs steps node result)
    (habove : above <+: address) {node : Node}
    (hnode : (Node.project project).at? above = some node) :
    ∃ steps result, (ofProject project).Climbs steps node result := by
  induction above using List.reverseRecOn generalizing node with
  | nil =>
      rcases isLast_or_further hnone habove hnode with hlast | ⟨last, hlt, found, hfound, hid⟩
      · exact ⟨0, none, .top (ownerOf?_of_isLast hlast)⟩
      · exact exists_climbs_congr hid (hfurther last hlt found hfound)
  | append_singleton above place ih =>
      rcases isLast_or_further hnone habove hnode with hlast | ⟨last, hlt, found, hfound, hid⟩
      · have howner := ownerOf?_of_isLast hlast
        rw [Node.ownerAt?_concat] at howner
        rw [Node.at?_concat] at hnode
        obtain ⟨owner, hat, -⟩ := Option.bind_eq_some_iff.1 hnode
        exact exists_climbs_of_owner (howner.trans hat)
          (ih ((List.prefix_append above [place]).trans habove) hat)
      · exact exists_climbs_congr hid (hfurther last hlt found hfound)

/-- Where no identity is repeated below itself, every walk ends. -/
theorem exists_climbs (hnone : project.RepeatsNoneBelow) (node : Node) :
    ∃ steps result, (ofProject project).Climbs steps node result := by
  have hplaced : ∀ address found, (Node.project project).at? address = some found →
      ∃ steps result, (ofProject project).Climbs steps found result := by
    intro address found hfound
    -- backwards through the addresses, of which there are finitely many
    have hfounded := (finite_addresses project).wellFoundedOn (r := fun a b => b < a)
    refine hfounded.induction (P := fun address => ∀ found,
      (Node.project project).at? address = some found →
        ∃ steps result, (ofProject project).Climbs steps found result)
      ⟨found, hfound⟩ (fun address _ ih found hfound => ?_) found hfound
    exact exists_climbs_of_isPrefix hnone
      (fun last hlt other hother => ih last ⟨other, hother⟩ hlt other hother)
      (List.prefix_refl address) hfound
  cases howner : (ofProject project).owner? node with
  | none => exact ⟨0, none, .top howner⟩
  | some owner =>
      obtain ⟨placement, hmem, hid⟩ := exists_mem_placements_of_owner? howner
      obtain ⟨address, hat, -⟩ := exists_address_of_mem hmem
      exact exists_climbs_congr hid (hplaced address _ hat)

end Ends

section Distinct

variable {project : Project}

/-- With different identities, an identity stands at one address only. -/
theorem address_eq_of_id_eq (hids : project.HasDistinctIds) {address other : List Nat}
    {node found : Node} (hnode : (Node.project project).at? address = some node)
    (hfound : (Node.project project).at? other = some found) (hid : node.id = found.id) :
    address = other := by
  obtain ⟨entries, hplacements, hlisting⟩ := exists_listing project
  obtain ⟨placement, hmem⟩ := hlisting.complete address node trivial hnode
  obtain ⟨placement', hmem'⟩ := hlisting.complete other found trivial hfound
  obtain rfl : node = placement.node := Option.some.inj (hnode.symm.trans (hlisting.node _ hmem))
  obtain rfl : found = placement'.node :=
    Option.some.inj (hfound.symm.trans (hlisting.node _ hmem'))
  unfold Project.HasDistinctIds at hids
  rw [← hplacements, List.map_map] at hids
  exact congrArg Prod.fst (List.inj_on_of_nodup_map hids hmem hmem' hid)

theorem isLast_of_hasDistinctIds (hids : project.HasDistinctIds) {address : List Nat} {node : Node}
    (hnode : (Node.project project).at? address = some node) : project.IsLast node.id address where
  holds := ⟨node, hnode, rfl⟩
  last _ _ hother hid := (address_eq_of_id_eq hids hother hnode hid).le

/-- With different identities, the walk from an element below a data model ends at the data
model. -/
theorem exists_climbs_dataModel (hids : project.HasDistinctIds) {place : Nat}
    {dataModel : DataModel} (hplace : project.dataModels[place]? = some dataModel)
    {rest : List Nat} (hbelow : rest ≠ []) {node : Node}
    (hnode : (Node.project project).at? (place :: rest) = some node) :
    ∃ steps, (ofProject project).Climbs steps node (some dataModel) := by
  induction rest using List.reverseRecOn generalizing node with
  | nil => exact absurd rfl hbelow
  | append_singleton above last ih =>
      have howner := ownerOf?_of_isLast (isLast_of_hasDistinctIds hids hnode)
      rw [← List.cons_append] at howner hnode
      rw [Node.ownerAt?_concat] at howner
      rw [Node.at?_concat] at hnode
      obtain ⟨owner, hat, -⟩ := Option.bind_eq_some_iff.1 hnode
      rw [hat] at howner
      cases above with
      | nil =>
          have hmodel : (Node.project project).at? [place] = some (.dataModel dataModel) := by
            rw [Node.at?, Node.owned, List.getElem?_map, hplace]
            rfl
          rw [hmodel] at hat
          cases hat
          exact ⟨0, .arrive howner⟩
      | cons next above =>
          obtain ⟨steps, hclimbs⟩ := ih (List.cons_ne_nil _ _) hat
          refine ⟨steps + 1, .step howner (fun hkind => ?_) hclimbs⟩
          -- data models stand right below the project, and this element is further down
          have hrank := Node.rank_at? hat
          obtain ⟨found, rfl⟩ := Node.exists_dataModel_of_kind hkind
          simp only [Node.rank, List.length_cons] at hrank
          omega

end Distinct

/-- Where no element has the identity of one above it, the walk from each element ends, with what
the index gives, and that is a data model of the project or none.  Where all identities are
different, it is the data model that the element is below. -/
theorem climbs_dataModelOf? (project : Project) :
    (project.RepeatsNoneBelow → ∀ node,
      (∃ steps, (ofProject project).Climbs steps node ((ofProject project).dataModelOf? node)) ∧
      ∀ dataModel, (ofProject project).dataModelOf? node = some dataModel →
        dataModel ∈ project.dataModels) ∧
    (project.HasDistinctIds → ∀ place dataModel rest node,
      project.dataModels[place]? = some dataModel → rest ≠ [] →
        (Node.project project).at? (place :: rest) = some node →
          (∃ steps, (ofProject project).Climbs steps node (some dataModel)) ∧
          (ofProject project).dataModelOf? node = some dataModel) := by
  refine ⟨fun hnone node => ⟨?_, fun dataModel => Generation.mem_dataModels_of_walkUp⟩,
    fun hids place dataModel rest node hplace hbelow hnode => ?_⟩
  · obtain ⟨steps, result, hclimbs⟩ := exists_climbs hnone node
    rw [hclimbs.dataModelOf?_eq]
    exact ⟨steps, hclimbs⟩
  · obtain ⟨steps, hclimbs⟩ := exists_climbs_dataModel hids hplace hbelow hnode
    exact ⟨⟨steps, hclimbs⟩, hclimbs.dataModelOf?_eq⟩

section SharedDiagram

def orders : Entity :=
  { id := .named "orders", columns := [{ id := .named "total" }] }

def sales : DataModel :=
  { id := .named "sales", members := [.diagram { id := .named "main", entities := [orders] }] }

def stock : DataModel :=
  { id := .named "stock", members := [.diagram { id := .named "main" }] }

def salesProject : Project :=
  { id := .named "shop", dataModels := [sales] }

/-- Both data models have a diagram with one identity. -/
def sharedDiagramProject : Project :=
  { id := .named "shop", dataModels := [sales, stock] }

/-- From an entity of the first data model the walk leads through the diagram of the second, and
ends there; without the second data model, it ends at the first. -/
theorem climbs_orders :
    sharedDiagramProject.RepeatsNoneBelow ∧
      (∃ steps, (ofProject sharedDiagramProject).Climbs steps (.entity orders) (some stock)) ∧
      stock ∈ sharedDiagramProject.dataModels ∧
      salesProject.HasDistinctIds ∧
      (ofProject salesProject).dataModelOf? (.entity orders) = some sales := by
  have hnone : sharedDiagramProject.RepeatsNoneBelow := by decide
  have hids : salesProject.HasDistinctIds := by
    unfold Project.HasDistinctIds
    decide
  obtain ⟨hclimbs, hmem⟩ :=
    (climbs_dataModelOf? sharedDiagramProject).1 hnone (.entity orders)
  have hsales := (climbs_dataModelOf? salesProject).2 hids 0 sales [0, 0] (.entity orders) rfl
    (List.cons_ne_nil _ _) rfl
  exact ⟨hnone, hclimbs, hmem stock rfl, hids, hsales.2⟩

end SharedDiagram

end Index
end ErdSql
