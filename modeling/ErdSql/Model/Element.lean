import ErdSql.Model.Tag

/-!
# The model of a database

An entity-relationship model is a tree: a project holds data models, a data model holds
diagrams and loose entities, a diagram holds entities, and an entity holds columns.  Every
element has an identity, a display name, a documentation text and tags.  Foreign keys cross the
tree: a column names the column it refers to by identity.
-/

namespace ErdSql

/-- The identity of an element.  An element of a document that gives none is identified by its
place in the tree, and is never equal to one that is named. -/
inductive ElementId where
  | named (id : String)
  | unnamed (place : List Nat)
deriving DecidableEq, Repr

/-- What every element has. -/
structure Element where
  id : ElementId := .unnamed []
  name : String := ""
  documentation : String := ""
  tags : Tags := []
deriving Repr, BEq

/-- The length of a column, as the document gives it. -/
inductive Length where
  | number (n : Int)
  | text (s : String)
deriving DecidableEq, Repr

def Length.shown : Length → String
  | .number n => toString n
  | .text s => s

/-- One attribute of an entity. -/
structure Column extends Element where
  /-- The abstract type, such as `VARCHAR`. -/
  type : String := "VARCHAR"
  length : Option Length := none
  nullable : Bool := true
  primaryKey : Bool := false
  unique : Bool := false
  foreignKey : Bool := false
  /-- The identity of the column it refers to. -/
  referenceTo : Option String := none
deriving Repr, BEq

/-- An entity; it becomes a table. -/
structure Entity extends Element where
  columns : List Column := []
deriving Repr, BEq

/-- A group of entities with a common table name prefix and common output files. -/
structure Diagram extends Element where
  entities : List Entity := []
deriving Repr, BEq

/-- What a data model holds. -/
inductive Member where
  | diagram (diagram : Diagram)
  | entity (entity : Entity)
deriving Repr, BEq

/-- A group of diagrams and loose entities; it becomes a schema. -/
structure DataModel extends Element where
  members : List Member := []
deriving Repr, BEq

/-- The root of a model. -/
structure Project extends Element where
  author : String := ""
  dataModels : List DataModel := []
deriving Repr, BEq

namespace DataModel

def diagrams (dataModel : DataModel) : List Diagram :=
  dataModel.members.filterMap fun
    | .diagram diagram => some diagram
    | .entity _ => none

/-- The entities of a data model that are in no diagram. -/
def looseEntities (dataModel : DataModel) : List Entity :=
  dataModel.members.filterMap fun
    | .diagram _ => none
    | .entity entity => some entity

end DataModel

/-- The kinds of elements. -/
inductive ElementKind where
  | project
  | dataModel
  | diagram
  | entity
  | column
deriving DecidableEq, Repr

def ElementKind.name : ElementKind → String
  | .project => "project"
  | .dataModel => "data_model"
  | .diagram => "diagram"
  | .entity => "entity"
  | .column => "column"

/-- An element of any kind. -/
inductive Node where
  | project (project : Project)
  | dataModel (dataModel : DataModel)
  | diagram (diagram : Diagram)
  | entity (entity : Entity)
  | column (column : Column)
deriving Repr

namespace Node

def kind : Node → ElementKind
  | .project _ => .project
  | .dataModel _ => .dataModel
  | .diagram _ => .diagram
  | .entity _ => .entity
  | .column _ => .column

def element : Node → Element
  | .project p => p.toElement
  | .dataModel m => m.toElement
  | .diagram d => d.toElement
  | .entity e => e.toElement
  | .column c => c.toElement

def id (node : Node) : ElementId :=
  node.element.id

def name (node : Node) : String :=
  node.element.name

end Node

def Member.node : Member → Node
  | .diagram d => .diagram d
  | .entity e => .entity e

end ErdSql
