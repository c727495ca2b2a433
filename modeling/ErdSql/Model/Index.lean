import ErdSql.Model.Element

/-!
# Index of a project

The elements of a project by identity, and the owner of each.  The index lists the elements in
pre-order, each with its owner; where several elements share an identity, the last one stands
for all of them.
-/

namespace ErdSql

/-- An element and the element that owns it; the project has no owner. -/
structure Placement where
  node : Node
  owner : Option Node
deriving Repr

/-- The elements of a project in pre-order. -/
structure Index where
  placements : List Placement

namespace Index

def ofEntity (owner : Node) (entity : Entity) : List Placement :=
  ⟨.entity entity, some owner⟩ ::
    entity.columns.map fun column => ⟨.column column, some (.entity entity)⟩

def ofDiagram (owner : Node) (diagram : Diagram) : List Placement :=
  ⟨.diagram diagram, some owner⟩ :: diagram.entities.flatMap (ofEntity (.diagram diagram))

def ofMember (owner : Node) : Member → List Placement
  | .diagram diagram => ofDiagram owner diagram
  | .entity entity => ofEntity owner entity

def ofDataModel (owner : Node) (dataModel : DataModel) : List Placement :=
  ⟨.dataModel dataModel, some owner⟩ ::
    dataModel.members.flatMap (ofMember (.dataModel dataModel))

def ofProject (project : Project) : Index :=
  ⟨⟨.project project, none⟩ ::
    project.dataModels.flatMap (ofDataModel (.project project))⟩

/-- The identities, each at its last occurrence. -/
def ids (index : Index) : List ElementId :=
  (index.placements.map (·.node.id)).foldr
    (fun id rest => if id ∈ rest then rest else id :: rest) []

def size (index : Index) : Nat :=
  index.ids.length

def get? (index : Index) (id : ElementId) : Option Node :=
  (index.placements.reverse.find? fun p => p.node.id == id).map (·.node)

def contains (index : Index) (id : ElementId) : Bool :=
  index.placements.any fun p => p.node.id == id

/-- The column with the given identity. -/
def column? (index : Index) (id : ElementId) : Option Column :=
  match index.get? id with
  | some (.column column) => some column
  | _ => none

/-- The owner of the element with the given identity: that of its last occurrence which has
one. -/
def ownerOf? (index : Index) (id : ElementId) : Option Node :=
  (index.placements.reverse.find? fun p => p.node.id == id && p.owner.isSome).bind (·.owner)

def owner? (index : Index) (node : Node) : Option Node :=
  index.ownerOf? node.id

/-- Walks up from owner to owner until a data model is met, at most the given number of
steps. -/
def walkUp (index : Index) : Nat → Option Node → Option DataModel
  | _, none => none
  | _, some (.dataModel dataModel) => some dataModel
  | 0, some _ => none
  | steps + 1, some node => index.walkUp steps (index.owner? node)

/-- The data model that an element belongs to.  A walk that meets no element twice has no more
steps than there are elements. -/
def dataModelOf? (index : Index) (node : Node) : Option DataModel :=
  index.walkUp index.placements.length (index.owner? node)

end Index
end ErdSql
