import ErdSql.Proofs.Artifacts
import Mathlib.Data.List.Nodup

/-!
# The index of a project

Where all elements of a project have different identities, the index agrees with the tree: it
gives each element its owner, each entity the prefix and the data model with which its table is
generated, and the columns that it knows are those of such entities.
-/

namespace ErdSql

/-- All elements of the project have different identities. -/
def Project.HasDistinctIds (project : Project) : Prop :=
  ((Index.ofProject project).placements.map (·.node.id)).Nodup

namespace Index

open Generation

section Lookup

variable {index : Index}

/-- With different identities, a placement is found by anything that only its identity has. -/
theorem find?_of_mem (hids : (index.placements.map (·.node.id)).Nodup) {placement : Placement}
    (h : placement ∈ index.placements) {p : Placement → Bool} (hp : p placement = true)
    (honly : ∀ found, p found = true → found.node.id = placement.node.id) :
    index.placements.reverse.find? p = some placement := by
  cases hfind : index.placements.reverse.find? p with
  | none => exact absurd hp (List.find?_eq_none.1 hfind _ (List.mem_reverse.2 h))
  | some found =>
      have hmem : found ∈ index.placements :=
        List.mem_reverse.1 (List.mem_of_find?_eq_some hfind)
      have hid := honly found (List.find?_some hfind)
      rw [List.inj_on_of_nodup_map hids hmem h hid]

/-- With different identities, an element is found with its own owner. -/
theorem owner?_of_mem (hids : (index.placements.map (·.node.id)).Nodup) {node owner : Node}
    (h : ⟨node, some owner⟩ ∈ index.placements) : index.owner? node = some owner := by
  unfold owner? ownerOf?
  rw [find?_of_mem hids h (by simp)]
  · rfl
  · intro found hfound
    rw [Bool.and_eq_true, beq_iff_eq] at hfound
    exact hfound.1

/-- With different identities, a column is found by its identity. -/
theorem column?_of_mem (hids : (index.placements.map (·.node.id)).Nodup) {column : Column}
    {owner : Option Node} (h : ⟨.column column, owner⟩ ∈ index.placements) :
    index.column? column.id = some column := by
  unfold column? get?
  rw [find?_of_mem hids h (beq_self_eq_true column.id)]
  · rfl
  · exact fun found hfound => beq_iff_eq.1 hfound

theorem mem_of_column? {id : ElementId} {column : Column} (h : index.column? id = some column) :
    (∃ owner, ⟨.column column, owner⟩ ∈ index.placements) ∧ column.id = id := by
  unfold column? get? at h
  cases hfind : index.placements.reverse.find? fun p => p.node.id == id with
  | none =>
      rw [hfind] at h
      cases h
  | some p =>
      rw [hfind, Option.map_some] at h
      obtain ⟨node, owner⟩ := p
      cases node with
      | column found =>
          obtain rfl : found = column := Option.some.inj h
          have hmem := List.mem_reverse.1 (List.mem_of_find?_eq_some hfind)
          have hid := List.find?_some hfind
          exact ⟨⟨owner, hmem⟩, beq_iff_eq.1 hid⟩
      | project project => cases h
      | dataModel dataModel => cases h
      | diagram diagram => cases h
      | entity entity => cases h

end Lookup

section Tree

variable {project : Project} {dataModel : DataModel}

theorem mem_looseEntities {entity : Entity} :
    entity ∈ dataModel.looseEntities ↔ .entity entity ∈ dataModel.members := by
  unfold DataModel.looseEntities
  rw [List.mem_filterMap]
  constructor
  · rintro ⟨member, hmember, hentity⟩
    cases member with
    | diagram diagram => cases hentity
    | entity found =>
        obtain rfl : found = entity := Option.some.inj hentity
        exact hmember
  · intro h
    exact ⟨_, h, rfl⟩

theorem dataModel_mem (hmodel : dataModel ∈ project.dataModels) {placement : Placement}
    (h : placement ∈ ofDataModel (.project project) dataModel) :
    placement ∈ (ofProject project).placements :=
  List.mem_cons_of_mem _ (List.mem_flatMap.2 ⟨dataModel, hmodel, h⟩)

theorem member_mem (hmodel : dataModel ∈ project.dataModels) {member : Member}
    (hmember : member ∈ dataModel.members) {placement : Placement}
    (h : placement ∈ ofMember (.dataModel dataModel) member) :
    placement ∈ (ofProject project).placements :=
  dataModel_mem hmodel (List.mem_cons_of_mem _ (List.mem_flatMap.2 ⟨member, hmember, h⟩))

theorem entity_mem (hmodel : dataModel ∈ project.dataModels) {file : TableFile}
    (hfile : file ∈ tableFiles dataModel) {entity : Entity} (hentity : entity ∈ file.entities) :
    ∃ owner, (∀ placement ∈ ofEntity owner entity, placement ∈ (ofProject project).placements) ∧
      (owner = .dataModel dataModel ∧ file.tablePrefix = "" ∨
        ∃ diagram, owner = .diagram diagram ∧
          ⟨.diagram diagram, some (.dataModel dataModel)⟩ ∈ (ofProject project).placements ∧
          file.tablePrefix = diagram.tags.valueOf "prefix") := by
  rcases TableFile.mem_tableFiles hfile with ⟨diagram, hdiagram, rfl⟩ | rfl
  · refine ⟨.diagram diagram, ?_, Or.inr ⟨diagram, rfl, ?_, rfl⟩⟩
    · intro placement hplacement
      refine member_mem hmodel hdiagram (List.mem_cons_of_mem _ ?_)
      exact List.mem_flatMap.2 ⟨entity, hentity, hplacement⟩
    · exact member_mem hmodel hdiagram (List.mem_cons_self ..)
  · refine ⟨.dataModel dataModel, ?_, Or.inl ⟨rfl, rfl⟩⟩
    intro placement hplacement
    exact member_mem hmodel (mem_looseEntities.1 hentity) hplacement

/-- A column that is placed is the column of an entity, whose table has its file. -/
theorem exists_entity_of_column_mem {column : Column} {owner : Option Node}
    (h : ⟨.column column, owner⟩ ∈ (ofProject project).placements) :
    ∃ dataModel ∈ project.dataModels, ∃ file ∈ tableFiles dataModel,
      ∃ entity ∈ file.entities, column ∈ entity.columns := by
  have hcolumn : ∀ {above : Node} {entity : Entity},
      ⟨.column column, owner⟩ ∈ ofEntity above entity → column ∈ entity.columns := by
    intro above entity h
    rcases List.mem_cons.1 h with h | h
    · cases h
    · obtain ⟨found, hfound, heq⟩ := List.mem_map.1 h
      cases heq
      exact hfound
  rcases List.mem_cons.1 h with h | h
  · cases h
  · obtain ⟨dataModel, hmodel, h⟩ := List.mem_flatMap.1 h
    rcases List.mem_cons.1 h with h | h
    · cases h
    · obtain ⟨member, hmember, h⟩ := List.mem_flatMap.1 h
      cases member with
      | diagram diagram =>
          rcases List.mem_cons.1 h with h | h
          · cases h
          · obtain ⟨entity, hentity, h⟩ := List.mem_flatMap.1 h
            exact ⟨dataModel, hmodel, _, TableFile.mem_tableFiles_ofDiagram hmember, entity,
              hentity, hcolumn h⟩
      | entity entity =>
          exact ⟨dataModel, hmodel, _, TableFile.mem_tableFiles_loose dataModel, entity,
            mem_looseEntities.2 hmember, hcolumn h⟩

theorem walkUp_dataModel (index : Index) (steps : Nat) (dataModel : DataModel) :
    index.walkUp steps (some (.dataModel dataModel)) = some dataModel := by
  cases steps <;> rfl

end Tree

/-- Where identities differ, walking up from an entity leads to the prefix and the data model
with which its table is generated. -/
theorem resolved_entity {project : Project} (hids : project.HasDistinctIds)
    {dataModel : DataModel} (hmodel : dataModel ∈ project.dataModels) {file : TableFile}
    (hfile : file ∈ tableFiles dataModel) {entity : Entity} (hentity : entity ∈ file.entities) :
    Table.prefixOf ((ofProject project).owner? (.entity entity)) = file.tablePrefix ∧
      (ofProject project).dataModelOf? (.entity entity) = some dataModel ∧
      ∀ column ∈ entity.columns,
        (ofProject project).owner? (.column column) = some (.entity entity) := by
  obtain ⟨owner, hplaced, howner⟩ := entity_mem hmodel hfile hentity
  have hentityOwner : (ofProject project).owner? (.entity entity) = some owner :=
    owner?_of_mem hids (hplaced _ (List.mem_cons_self ..))
  refine ⟨?_, ?_, ?_⟩
  · rw [hentityOwner]
    rcases howner with ⟨rfl, htablePrefix⟩ | ⟨diagram, rfl, -, htablePrefix⟩
    · exact htablePrefix.symm
    · exact htablePrefix.symm
  · rw [dataModelOf?, hentityOwner]
    rcases howner with ⟨rfl, -⟩ | ⟨diagram, rfl, hdiagram, -⟩
    · exact walkUp_dataModel _ _ _
    · -- the diagram is one more step on the way up
      change (ofProject project).walkUp _ ((ofProject project).owner? (.diagram diagram)) = _
      rw [owner?_of_mem hids hdiagram]
      exact walkUp_dataModel _ _ _
  · intro column hcolumn
    refine owner?_of_mem hids (hplaced _ (List.mem_cons_of_mem _ ?_))
    exact List.mem_map.2 ⟨column, hcolumn, rfl⟩

end Index
end ErdSql
