import ErdSql.Proofs.Placements

/-!
# Projects without some of their elements

Entities and columns may be deleted from a project, named by their identities; the columns of a
deleted entity go with it.  What is left keeps its order, its owners and its identities.
-/

namespace ErdSql

section Without

variable (gone : ElementId → Bool)

/-- The entity without the columns that are gone. -/
def Entity.without (entity : Entity) : Entity :=
  { entity with columns := entity.columns.filter fun column => !gone column.id }

/-- The entities that are left, without the columns that are gone. -/
def Entity.left (entities : List Entity) : List Entity :=
  (entities.filter fun entity => !gone entity.id).map (Entity.without gone)

/-- The diagram without the entities and columns that are gone. -/
def Diagram.without (diagram : Diagram) : Diagram :=
  { diagram with entities := Entity.left gone diagram.entities }

/-- The member without what is gone, unless it is itself an entity that is gone. -/
def Member.without? : Member → Option Member
  | .diagram d => some (.diagram (d.without gone))
  | .entity e => if gone e.id then none else some (.entity (e.without gone))

/-- The data model without the entities and columns that are gone. -/
def DataModel.without (dataModel : DataModel) : DataModel :=
  { dataModel with members := dataModel.members.filterMap (Member.without? gone) }

/-- The project without the entities and columns that are gone. -/
def Project.without (project : Project) : Project :=
  { project with dataModels := project.dataModels.map (DataModel.without gone) }

end Without

theorem Member.without?_diagram (gone : ElementId → Bool) (diagram : Diagram) :
    Member.without? gone (.diagram diagram) = some (.diagram (diagram.without gone)) :=
  rfl

theorem Member.without?_of_gone {gone : ElementId → Bool} {entity : Entity}
    (h : gone entity.id = true) : Member.without? gone (.entity entity) = none :=
  if_pos h

theorem Member.without?_of_kept {gone : ElementId → Bool} {entity : Entity}
    (h : gone entity.id = false) :
    Member.without? gone (.entity entity) = some (.entity (entity.without gone)) := by
  simp [Member.without?, h]

namespace Entity

variable {gone : ElementId → Bool}

theorem left_cons_of_gone {entity : Entity} (h : gone entity.id = true)
    (entities : List Entity) : left gone (entity :: entities) = left gone entities := by
  simp [left, h]

theorem left_cons_of_kept {entity : Entity} (h : gone entity.id = false)
    (entities : List Entity) :
    left gone (entity :: entities) = entity.without gone :: left gone entities := by
  simp [left, h]

/-- What looks at columns, and sees nothing of those that are gone, sees the same without
them. -/
theorem filterMap_columns_without {β : Type} {entity : Entity} {f : Column → Option β}
    (h : ∀ column ∈ entity.columns, gone column.id = true → f column = none) :
    (entity.without gone).columns.filterMap f = entity.columns.filterMap f := by
  unfold without
  rw [List.filterMap_filter]
  refine List.filterMap_congr fun column hcolumn => ?_
  by_cases hgone : gone column.id = true
  · simp [hgone, h column hcolumn hgone]
  · simp [hgone]

end Entity

/-- What is gone of an entity becomes nothing: its table has no name, or the columns that are
gone have none and take up no field of the rows to insert. -/
structure Entity.CanSpare (gone : ElementId → Bool) (options : Options) (tablePrefix : String)
    (entity : Entity) : Prop where
  table : gone entity.id = true → Table.isGenerated tablePrefix entity = false
  columns : gone entity.id = false → ∀ column ∈ entity.columns, gone column.id = true →
    (Naming.columnName column.toElement).isOk = false ∧
      Table.documentationMode options entity ≠ .seedInserts

instance (gone : ElementId → Bool) (options : Options) (tablePrefix : String)
    (entity : Entity) : Decidable (entity.CanSpare gone options tablePrefix) :=
  decidable_of_iff
    ((gone entity.id = true → Table.isGenerated tablePrefix entity = false) ∧
      (gone entity.id = false → ∀ column ∈ entity.columns, gone column.id = true →
        (Naming.columnName column.toElement).isOk = false ∧
          Table.documentationMode options entity ≠ .seedInserts))
    ⟨fun h => ⟨h.1, h.2⟩, fun h => ⟨h.table, h.columns⟩⟩

/-- Nothing is gone of the project but entities and columns that become nothing. -/
def Project.CanSpare (gone : ElementId → Bool) (options : Options) (project : Project) : Prop :=
  ∀ dataModel ∈ project.dataModels, ∀ file ∈ Generation.tableFiles dataModel,
    ∀ entity ∈ file.entities, entity.CanSpare gone options file.tablePrefix

instance (gone : ElementId → Bool) (options : Options) (project : Project) :
    Decidable (project.CanSpare gone options) :=
  inferInstanceAs (Decidable (∀ dataModel ∈ project.dataModels,
    ∀ file ∈ Generation.tableFiles dataModel, ∀ entity ∈ file.entities,
      entity.CanSpare gone options file.tablePrefix))

namespace Generation

variable (gone : ElementId → Bool)

/-- The tables of the entities that are left. -/
def TableFile.without (file : TableFile) : TableFile :=
  { file with entities := Entity.left gone file.entities }

theorem looseEntities_without (dataModel : DataModel) :
    (dataModel.without gone).looseEntities = Entity.left gone dataModel.looseEntities := by
  unfold DataModel.without DataModel.looseEntities
  induction dataModel.members with
  | nil => rfl
  | cons member members ih =>
      cases member with
      | diagram diagram => exact ih
      | entity entity =>
          cases hgone : gone entity.id with
          | true =>
              simp only [List.filterMap_cons, Member.without?_of_gone hgone,
                Entity.left_cons_of_gone hgone]
              exact ih
          | false =>
              simp only [List.filterMap_cons, Member.without?_of_kept hgone,
                Entity.left_cons_of_kept hgone]
              rw [ih]

/-- Deletion leaves the files of the tables as they are, apart from the entities in them. -/
theorem tableFiles_without (dataModel : DataModel) :
    tableFiles (dataModel.without gone) =
      (tableFiles dataModel).map (TableFile.without gone) := by
  have hdiagrams : (dataModel.without gone).members.filterMap
      (TableFile.ofMember? (dataModel.without gone)) =
        (dataModel.members.filterMap (TableFile.ofMember? dataModel)).map
          (TableFile.without gone) := by
    unfold DataModel.without
    rw [List.filterMap_filterMap, List.map_filterMap]
    refine List.filterMap_congr fun member _ => ?_
    cases member with
    | diagram diagram => rfl
    | entity entity =>
        cases hgone : gone entity.id with
        | true => rw [Member.without?_of_gone hgone]; rfl
        | false => rw [Member.without?_of_kept hgone]; rfl
  have hloose : TableFile.loose (dataModel.without gone) =
      (TableFile.loose dataModel).without gone := by
    unfold TableFile.loose TableFile.without
    rw [looseEntities_without]
    rfl
  rw [tableFiles, hdiagrams, hloose, tableFiles, List.map_append, List.map_singleton]

end Generation

namespace Index

variable (gone : ElementId → Bool)

/-- The identities of placements. -/
def idsOf (placements : List Placement) : List ElementId :=
  placements.map (·.node.id)

theorem idsOf_flatMap_cons {α : Type} (f : α → List Placement) (a : α) (as : List α) :
    idsOf ((a :: as).flatMap f) = idsOf (f a) ++ idsOf (as.flatMap f) := by
  rw [List.flatMap_cons, idsOf, List.map_append]
  rfl

theorem idsOf_ofEntity_sublist (owner owner' : Node) (entity : Entity) :
    (idsOf (ofEntity owner' (entity.without gone))).Sublist (idsOf (ofEntity owner entity)) := by
  simp only [idsOf, ofEntity, List.map_cons, List.map_map]
  exact List.Sublist.cons_cons _ (List.filter_sublist.map _)

theorem idsOf_left_sublist (owner owner' : Node) (entities : List Entity) :
    (idsOf ((Entity.left gone entities).flatMap (ofEntity owner'))).Sublist
      (idsOf (entities.flatMap (ofEntity owner))) := by
  induction entities with
  | nil => exact List.Sublist.refl _
  | cons entity entities ih =>
      have hentity := idsOf_ofEntity_sublist gone owner owner' entity
      rw [idsOf_flatMap_cons]
      cases hgone : gone entity.id with
      | true =>
          rw [Entity.left_cons_of_gone hgone]
          exact ih.trans (List.sublist_append_right _ _)
      | false =>
          rw [Entity.left_cons_of_kept hgone, idsOf_flatMap_cons]
          exact hentity.append ih

theorem idsOf_ofDiagram_sublist (owner owner' : Node) (diagram : Diagram) :
    (idsOf (ofDiagram owner' (diagram.without gone))).Sublist
      (idsOf (ofDiagram owner diagram)) :=
  List.Sublist.cons_cons _ (idsOf_left_sublist gone _ _ diagram.entities)

theorem idsOf_members_sublist (owner owner' : Node) (members : List Member) :
    (idsOf ((members.filterMap (Member.without? gone)).flatMap (ofMember owner'))).Sublist
      (idsOf (members.flatMap (ofMember owner))) := by
  induction members with
  | nil => exact List.Sublist.refl _
  | cons member members ih =>
      rw [idsOf_flatMap_cons]
      cases member with
      | diagram diagram =>
          rw [List.filterMap_cons_some (Member.without?_diagram gone diagram), idsOf_flatMap_cons]
          exact (idsOf_ofDiagram_sublist gone owner owner' diagram).append ih
      | entity entity =>
          cases hgone : gone entity.id with
          | true =>
              rw [List.filterMap_cons_none (Member.without?_of_gone hgone)]
              exact ih.trans (List.sublist_append_right _ _)
          | false =>
              rw [List.filterMap_cons_some (Member.without?_of_kept hgone), idsOf_flatMap_cons]
              exact (idsOf_ofEntity_sublist gone owner owner' entity).append ih

theorem idsOf_dataModels_sublist (owner owner' : Node) (models : List DataModel) :
    (idsOf ((models.map (DataModel.without gone)).flatMap (ofDataModel owner'))).Sublist
      (idsOf (models.flatMap (ofDataModel owner))) := by
  induction models with
  | nil => exact List.Sublist.refl _
  | cons model models ih =>
      have hmodel : (idsOf (ofDataModel owner' (model.without gone))).Sublist
          (idsOf (ofDataModel owner model)) :=
        List.Sublist.cons_cons _ (idsOf_members_sublist gone _ _ model.members)
      rw [List.map_cons, idsOf_flatMap_cons, idsOf_flatMap_cons]
      exact hmodel.append ih

end Index

/-- Deletion keeps identities different. -/
theorem Project.HasDistinctIds.without {project : Project} (h : project.HasDistinctIds)
    (gone : ElementId → Bool) : (project.without gone).HasDistinctIds := by
  unfold HasDistinctIds at *
  refine List.Nodup.sublist ?_ h
  exact List.Sublist.cons_cons _ (Index.idsOf_dataModels_sublist gone _ _ project.dataModels)

end ErdSql
