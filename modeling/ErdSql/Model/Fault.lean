import ErdSql.Json.Printer

/-!
# Faults of a document

What may be wrong with a document that should describe a model, and a way of reading that goes
on after a fault, so that all faults of a document are found, in the order of its fields.
-/

namespace ErdSql

/-- One step on the way from the root of a document to a value. -/
inductive Step where
  | member (name : String)
  | item (index : Nat)
deriving DecidableEq, Repr

/-- What is wrong with a value. -/
inductive Problem where
  | notString
  | notArray
  /-- The value should describe an element or a tag. -/
  | notObject
  /-- The value should describe a member of a data model. -/
  | notMember
  | missing
  | booleanText
  | notBoolean
  | numberText
  | notNumber
  | notInteger
  | fractional
  | notFinite
  | integerTooLarge
  | unknownTagKind
  | wrongKind (expected : String)
  | noMemberKind
  | unknownMemberKind (kind : String)
deriving DecidableEq, Repr

namespace Problem

def code : Problem → String
  | notString => "string_type"
  | notArray => "list_type"
  | notObject => "model_type"
  | notMember => "dict_type"
  | missing => "missing"
  | booleanText => "bool_parsing"
  | notBoolean => "bool_type"
  | numberText => "float_parsing"
  | notNumber => "float_type"
  | notInteger => "int_type"
  | fractional => "int_from_float"
  | notFinite => "finite_number"
  | integerTooLarge => "int_parsing_size"
  | unknownTagKind => "enum"
  | wrongKind _ => "literal_error"
  | noMemberKind => "union_tag_not_found"
  | unknownMemberKind _ => "union_tag_invalid"

def message : Problem → String
  | notString => "Input should be a valid string"
  | notArray => "Input should be a valid array"
  | notObject => "Input should be an object"
  | notMember => "Input should be an object"
  | missing => "Field required"
  | booleanText => "Input should be a valid boolean, unable to interpret input"
  | notBoolean => "Input should be a valid boolean"
  | numberText => "Input should be a valid number, unable to parse string as a number"
  | notNumber => "Input should be a valid number"
  | notInteger => "Input should be a valid integer"
  | fractional => "Input should be a valid integer, got a number with a fractional part"
  | notFinite => "Input should be a finite number"
  | integerTooLarge => "Unable to parse input string as an integer, exceeded maximum size"
  | unknownTagKind => "Input should be 'string', 'boolean', 'number', 'reference' or 'hidden'"
  | wrongKind expected => "Input should be '" ++ expected ++ "'"
  | noMemberKind => "Unable to extract tag using discriminator 'kind'"
  | unknownMemberKind kind =>
      "Input tag '" ++ kind ++
        "' found using 'kind' does not match any of the expected tags: 'diagram', 'entity'"

end Problem

/-- A problem and where it is. -/
structure Fault where
  path : List Step
  problem : Problem
deriving DecidableEq, Repr

/-- The result of reading a part of a document: a value, or all the faults found, of which
there is at least one. -/
inductive Checked (α : Type) where
  | valid (value : α)
  | faulty (first : Fault) (rest : List Fault)
deriving Repr

namespace Checked

variable {α β : Type}

def fault (problem : Problem) : Checked α :=
  .faulty ⟨[], problem⟩ []

def faults : Checked α → List Fault
  | .valid _ => []
  | .faulty first rest => first :: rest

def value? : Checked α → Option α
  | .valid value => some value
  | .faulty _ _ => none

def map (f : α → β) : Checked α → Checked β
  | .valid a => .valid (f a)
  | .faulty first rest => .faulty first rest

/-- Applies a read function to a read value; the faults of both are kept, in this order. -/
def apply : Checked (α → β) → Checked α → Checked β
  | .valid f, .valid a => .valid (f a)
  | .valid _, .faulty first rest => .faulty first rest
  | .faulty first rest, a => .faulty first (rest ++ a.faults)

/-- The same result for a value one step further away from the root. -/
def under (step : Step) : Checked α → Checked α
  | .valid a => .valid a
  | .faulty first rest =>
      .faulty ⟨step :: first.path, first.problem⟩
        (rest.map fun f => ⟨step :: f.path, f.problem⟩)

def sequence : List (Checked α) → Checked (List α)
  | [] => .valid []
  | a :: rest => (a.map List.cons).apply (sequence rest)

@[simp] theorem faults_valid (a : α) : (valid a).faults = [] := rfl

@[simp] theorem faults_map (f : α → β) (a : Checked α) : (a.map f).faults = a.faults := by
  cases a <;> rfl

/-- No fault is lost or moved. -/
theorem faults_apply (f : Checked (α → β)) (a : Checked α) :
    (f.apply a).faults = f.faults ++ a.faults := by
  cases f <;> cases a <;> rfl

end Checked
end ErdSql
