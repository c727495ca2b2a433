import ErdSql.Proofs.Manifest

/-!
# A project with more tags

The data models of a project are generated with its index, from which references are resolved.
Indexes that resolve references alike lead to the same plans.  More tags of a project, as long as
none of them overrides a table name, do not change how references are resolved, even where the
project has the identity of other elements.
-/

namespace ErdSql

/-- The project with tags added behind those that it has. -/
def Project.tagged (extra : Tags) (project : Project) : Project :=
  { project with tags := project.tags ++ extra }

/-- The element with tags added if it is a project. -/
def Node.tagged (extra : Tags) : Node → Node
  | .project p => .project (p.tagged extra)
  | .dataModel m => .dataModel m
  | .diagram d => .diagram d
  | .entity e => .entity e
  | .column c => .column c

/-- The placement with tags added to the projects in it. -/
def Placement.tagged (extra : Tags) (placement : Placement) : Placement where
  node := placement.node.tagged extra
  owner := placement.owner.map (Node.tagged extra)

/-- The first tag with a name decides, so tags behind it do not count. -/
theorem Tags.valueOf_append_of_find?_eq_none {tags extra : Tags} {name : String}
    (h : extra.find? name = none) : (tags ++ extra).valueOf name = tags.valueOf name := by
  have hfind : Tags.find? (tags ++ extra) name = tags.find? name := by
    unfold Tags.find? at h ⊢
    rw [List.find?_append, h, Option.or_none]
  rw [Tags.valueOf, hfind, Tags.valueOf]

namespace Node

variable (extra : Tags) (node : Node)

theorem id_tagged : (node.tagged extra).id = node.id := by
  cases node <;> rfl

theorem name_tagged : (node.tagged extra).name = node.name := by
  cases node <;> rfl

end Node

namespace Index

variable (extra : Tags)

/-- The index with tags added to the projects in it. -/
def tagged (index : Index) : Index :=
  ⟨index.placements.map (Placement.tagged extra)⟩

section Tree

theorem ofEntity_tagged (owner : Node) (entity : Entity) :
    ofEntity (owner.tagged extra) entity =
      (ofEntity owner entity).map (Placement.tagged extra) := by
  simp [ofEntity, Placement.tagged, Node.tagged]

theorem ofDiagram_tagged (owner : Node) (diagram : Diagram) :
    ofDiagram (owner.tagged extra) diagram =
      (ofDiagram owner diagram).map (Placement.tagged extra) := by
  have hentity : ∀ entity, ofEntity (.diagram diagram) entity =
      (ofEntity (.diagram diagram) entity).map (Placement.tagged extra) :=
    ofEntity_tagged extra (.diagram diagram)
  rw [ofDiagram, ofDiagram, List.map_cons, List.map_flatMap, ← funext hentity]
  rfl

theorem ofMember_tagged (owner : Node) (member : Member) :
    ofMember (owner.tagged extra) member =
      (ofMember owner member).map (Placement.tagged extra) := by
  cases member with
  | diagram diagram => exact ofDiagram_tagged extra owner diagram
  | entity entity => exact ofEntity_tagged extra owner entity

theorem ofDataModel_tagged (owner : Node) (dataModel : DataModel) :
    ofDataModel (owner.tagged extra) dataModel =
      (ofDataModel owner dataModel).map (Placement.tagged extra) := by
  have hmember : ∀ member, ofMember (.dataModel dataModel) member =
      (ofMember (.dataModel dataModel) member).map (Placement.tagged extra) :=
    ofMember_tagged extra (.dataModel dataModel)
  rw [ofDataModel, ofDataModel, List.map_cons, List.map_flatMap, ← funext hmember]
  rfl

theorem ofProject_tagged (project : Project) :
    ofProject (project.tagged extra) = (ofProject project).tagged extra := by
  have hmodel : ∀ dataModel, ofDataModel (.project (project.tagged extra)) dataModel =
      (ofDataModel (.project project) dataModel).map (Placement.tagged extra) :=
    ofDataModel_tagged extra (.project project)
  unfold tagged ofProject
  rw [List.map_cons, List.map_flatMap, ← funext hmodel]
  rfl

end Tree

section Lookup

variable (index : Index)

theorem get?_tagged (id : ElementId) :
    (index.tagged extra).get? id = (index.get? id).map (Node.tagged extra) := by
  have hid : ((fun placement : Placement => placement.node.id == id) ∘ Placement.tagged extra) =
      fun placement => placement.node.id == id := by
    funext placement
    exact congrArg (· == id) (placement.node.id_tagged extra)
  unfold get? tagged
  rw [← List.map_reverse, List.find?_map, hid, Option.map_map, Option.map_map]
  rfl

theorem column?_tagged (id : ElementId) : (index.tagged extra).column? id = index.column? id := by
  unfold column?
  rw [get?_tagged]
  cases index.get? id with
  | none => rfl
  | some node => cases node <;> rfl

theorem owner?_tagged (node : Node) :
    (index.tagged extra).owner? (node.tagged extra) =
      (index.owner? node).map (Node.tagged extra) := by
  unfold owner? ownerOf? tagged
  rw [node.id_tagged extra, ← List.map_reverse, List.find?_map]
  have howned : ((fun placement : Placement =>
      placement.node.id == node.id && placement.owner.isSome) ∘ Placement.tagged extra) =
        fun placement => placement.node.id == node.id && placement.owner.isSome := by
    funext placement
    simp [Placement.tagged, Node.id_tagged]
  rw [howned]
  cases index.placements.reverse.find?
    fun placement => placement.node.id == node.id && placement.owner.isSome <;> rfl

theorem walkUp_tagged (steps : Nat) (node : Option Node) :
    (index.tagged extra).walkUp steps (node.map (Node.tagged extra)) =
      index.walkUp steps node := by
  induction steps generalizing node with
  | zero => rcases node with - | node
            · rfl
            · cases node <;> rfl
  | succ steps ih =>
      rcases node with - | node
      · rfl
      · have hup := ih (index.owner? node)
        rw [← owner?_tagged] at hup
        cases node <;> first | rfl | exact hup

theorem dataModelOf?_tagged (node : Node) :
    (index.tagged extra).dataModelOf? (node.tagged extra) = index.dataModelOf? node := by
  unfold dataModelOf?
  rw [owner?_tagged, walkUp_tagged]
  simp [tagged]

end Lookup

/-- The indexes resolve every reference of every column alike. -/
def ResolvesAlike (index index' : Index) : Prop :=
  ∀ (table tableName : String) (column : Table.NamedColumn) (target : String),
    Table.resolveReference index table tableName column target =
      Table.resolveReference index' table tableName column target

end Index

section References

variable {extra : Tags} (htable : extra.find? "table" = none)

include htable

theorem Naming.prefixedTableName_tagged (tablePrefix : String) (node : Node) :
    Naming.prefixedTableName tablePrefix (node.tagged extra).element =
      Naming.prefixedTableName tablePrefix node.element := by
  cases node with
  | project project =>
      have hcandidate : Naming.candidate "table" (project.tagged extra).toElement =
          Naming.candidate "table" project.toElement := by
        have hvalue : (project.tagged extra).tags.valueOf "table" =
            project.tags.valueOf "table" := Tags.valueOf_append_of_find?_eq_none htable
        unfold Naming.candidate
        rw [hvalue]
        rfl
      have hname : Naming.tableName (project.tagged extra).toElement =
          Naming.tableName project.toElement := by
        unfold Naming.tableName
        rw [hcandidate]
        rfl
      have helement : (Node.tagged extra (.project project)).element =
          (project.tagged extra).toElement := rfl
      unfold Naming.prefixedTableName
      rw [helement, hname]
      rfl
  | dataModel dataModel => rfl
  | diagram diagram => rfl
  | entity entity => rfl
  | column column => rfl

/-- More tags of the project change no reference if they override no table name. -/
theorem Index.resolvesAlike_tagged (index : Index) : (index.tagged extra).ResolvesAlike index := by
  intro table tableName column target
  unfold Table.resolveReference
  simp only [Index.column?_tagged]
  cases index.column? (.named target) with
  | none => rfl
  | some referred =>
      have howner : (index.tagged extra).owner? (.column referred) =
          (index.owner? (.column referred)).map (Node.tagged extra) :=
        Index.owner?_tagged extra index (.column referred)
      simp only [howner]
      cases index.owner? (.column referred) with
      | none => rfl
      | some owner =>
          have hprefix : Table.prefixOf ((index.tagged extra).owner? (owner.tagged extra)) =
              Table.prefixOf (index.owner? owner) := by
            rw [Index.owner?_tagged]
            cases index.owner? owner with
            | none => rfl
            | some above => cases above <;> rfl
          simp only [Option.map_some, hprefix, Index.dataModelOf?_tagged, Node.name_tagged,
            Naming.prefixedTableName_tagged htable]

end References

namespace Generation

section Alike

variable {index index' : Index} (halike : index.ResolvesAlike index') (options : Options)

include halike

theorem entityEdits_of_resolvesAlike (schema tablePrefix : String) (entity : Entity) :
    Table.entityEdits options index schema tablePrefix entity =
      Table.entityEdits options index' schema tablePrefix entity := by
  unfold Table.entityEdits Table.tableEdits Table.referenceEdits
  simp only [halike _ _ _ _]

variable (schema modelName : String)

theorem entity_of_resolvesAlike (tablePrefix : String) (group : Table.Group) (entity : Entity) :
    TableSetting.entity ⟨options, index, schema, modelName⟩ tablePrefix group entity =
      TableSetting.entity ⟨options, index', schema, modelName⟩ tablePrefix group entity := by
  unfold TableSetting.entity
  simp only [entityEdits_of_resolvesAlike halike]

theorem entities_of_resolvesAlike (tablePrefix : String) (group : Table.Group)
    (entities : List Entity) :
    TableSetting.entities ⟨options, index, schema, modelName⟩ tablePrefix group entities =
      TableSetting.entities ⟨options, index', schema, modelName⟩ tablePrefix group entities := by
  induction entities generalizing group with
  | nil => rfl
  | cons entity entities ih =>
      simp only [TableSetting.entities, entity_of_resolvesAlike halike, ih]

theorem members_of_resolvesAlike (progress : TableSetting.Progress) (members : List Member) :
    TableSetting.members ⟨options, index, schema, modelName⟩ progress members =
      TableSetting.members ⟨options, index', schema, modelName⟩ progress members := by
  have hdiagram : ∀ diagram,
      TableSetting.diagram ⟨options, index, schema, modelName⟩ diagram =
        TableSetting.diagram ⟨options, index', schema, modelName⟩ diagram := by
    intro diagram
    simp only [TableSetting.diagram, entities_of_resolvesAlike halike]
    rfl
  induction members generalizing progress with
  | nil => rfl
  | cons member members ih =>
      cases member with
      | diagram diagram => simp only [TableSetting.members, hdiagram, ih]
      | entity entity => simp only [TableSetting.members, entity_of_resolvesAlike halike, ih]

theorem tables_of_resolvesAlike (dataModel : DataModel) :
    TableSetting.tables ⟨options, index, schema, modelName⟩ dataModel =
      TableSetting.tables ⟨options, index', schema, modelName⟩ dataModel := by
  simp only [TableSetting.tables, members_of_resolvesAlike halike]
  rfl

/-- Data models are generated alike from indexes that resolve references alike. -/
theorem dataModels_of_resolvesAlike (run : SchemaRun) (models : List DataModel) :
    dataModels options index run models = dataModels options index' run models := by
  have hmodel : ∀ model, dataModel options index model = dataModel options index' model := by
    intro model
    simp only [dataModel, tables_of_resolvesAlike halike]
  induction models generalizing run with
  | nil => rfl
  | cons model models ih => simp only [dataModels, hmodel, ih]

end Alike

end Generation
end ErdSql
