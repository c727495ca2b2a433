import ErdSql.Json.Basic

/-!
# Context of a log record

What the program is at work on when it writes a log record.  Contexts nest: an inner one takes
over from the outer one what it does not set itself.
-/

namespace ErdSql
namespace Log

/-- The fields of a context that have a name of their own, in the order they are shown. -/
inductive Field where
  | project
  | dataModel
  | diagram
  | entity
  | correlationId
  | component
  | operation
deriving DecidableEq, Repr

namespace Field

def name : Field → String
  | project => "project"
  | dataModel => "data_model"
  | diagram => "diagram"
  | entity => "entity"
  | correlationId => "correlation_id"
  | component => "component"
  | operation => "operation"

def all : List Field :=
  [project, dataModel, diagram, entity, correlationId, component, operation]

end Field

/-- What the program is at work on; other values of interest go by any name. -/
structure Context where
  project : Option String := none
  dataModel : Option String := none
  diagram : Option String := none
  entity : Option String := none
  correlationId : Option String := none
  component : Option String := none
  operation : Option String := none
  extra : List (String × Json) := []
deriving Repr, BEq

namespace Context

def get (context : Context) : Field → Option String
  | .project => context.project
  | .dataModel => context.dataModel
  | .diagram => context.diagram
  | .entity => context.entity
  | .correlationId => context.correlationId
  | .component => context.component
  | .operation => context.operation

def set (context : Context) (field : Field) (value : Option String) : Context :=
  match field with
  | .project => { context with project := value }
  | .dataModel => { context with dataModel := value }
  | .diagram => { context with diagram := value }
  | .entity => { context with entity := value }
  | .correlationId => { context with correlationId := value }
  | .component => { context with component := value }
  | .operation => { context with operation := value }

/-- With more values of interest, which replace those of the same name. -/
def addExtra (context : Context) (extra : List (String × Json)) : Context :=
  { context with extra := Json.overwrite context.extra extra }

/-- The inner context, with what it does not set taken from the outer one. -/
def inside (inner outer : Context) : Context where
  project := inner.project <|> outer.project
  dataModel := inner.dataModel <|> outer.dataModel
  diagram := inner.diagram <|> outer.diagram
  entity := inner.entity <|> outer.entity
  correlationId := inner.correlationId <|> outer.correlationId
  component := inner.component <|> outer.component
  operation := inner.operation <|> outer.operation
  extra := Json.overwrite outer.extra inner.extra

/-- The fields that are set, and the other values, which replace fields of the same name. -/
def members (context : Context) : List (String × Json) :=
  let fields := Field.all.filterMap fun field =>
    (context.get field).map fun value => (field.name, Json.string value)
  Json.overwrite fields context.extra

end Context

/-- The contexts that have been entered and not left, the innermost first. -/
structure Stack where
  contexts : List Context := []

namespace Stack

/-- The innermost context. -/
def current (stack : Stack) : Context :=
  stack.contexts.headD {}

def push (stack : Stack) (context : Context) : Stack :=
  ⟨context :: stack.contexts⟩

def pop (stack : Stack) : Stack :=
  ⟨stack.contexts.tail⟩

end Stack
end Log
end ErdSql
