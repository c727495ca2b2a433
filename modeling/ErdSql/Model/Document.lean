import ErdSql.Decimal.Numeral
import ErdSql.Json.Reader
import ErdSql.Model.Element
import ErdSql.Model.Fault

/-!
# Reading a model from a document

A model is read from a JSON value.  Fields that are left out have defaults, fields of other
names are ignored, and some values of another type are taken for what they clearly mean: a
switch may be a number or a word, a number may be a text.  All faults are reported.
-/

namespace ErdSql
namespace Document

open Checked

abbrev Fields : Type := List (String × Json)

/-- Reads a field, or takes the default if it is left out. -/
def fieldOr {α : Type} (fields : Fields) (name : String) (default : α)
    (read : Json → Checked α) : Checked α :=
  match Json.member? name fields with
  | none => .valid default
  | some value => (read value).under (.member name)

def field {α : Type} (fields : Fields) (name : String)
    (read : Json → Checked α) : Checked α :=
  match Json.member? name fields with
  | none => (Checked.fault .missing).under (.member name)
  | some value => (read value).under (.member name)

def string : Json → Checked String
  | .string s => .valid s
  | _ => .fault .notString

def string? : Json → Checked (Option String)
  | .null => .valid none
  | value => (string value).map some

/-- The words for the two positions of a switch, in lower case. -/
def trueWords : List String := ["1", "t", "true", "y", "yes", "on"]

def falseWords : List String := ["0", "f", "false", "n", "no", "off"]

/-- The bound of 64-bit integers. -/
def integerBound : Nat := 0x8000000000000000

/-- The bound of the integers of at most eighteen digits. -/
def shortIntegerBound : Nat := 1000000000000000000

/-- A switch: a truth value, one or zero, or one of the words for them in any case.  Another
whole number is faulty as a word of no meaning is, and one that is too large is as faulty as a
value of another type. -/
def boolean : Json → Checked Bool
  | .bool b => .valid b
  | .int n =>
      if n = 0 then .valid false
      else if n = 1 then .valid true
      else if n.natAbs < shortIntegerBound then .fault .booleanText
      else .fault .notBoolean
  | .float x =>
      if x.rank = 0 then .valid false
      else if x.rank = Binary64.one.rank then .valid true
      else if x.isFinite ∧ x.isIntegral ∧ x.truncate.natAbs < integerBound then
        .fault .booleanText
      else
        .fault .notBoolean
  | .string s =>
      if s.toLower ∈ trueWords then .valid true
      else if s.toLower ∈ falseWords then .valid false
      else .fault .booleanText
  | _ => .fault .notBoolean

/-- A number: a numeral, a truth value for one or zero, or a text that reads as a number. -/
def number : Json → Checked Binary64
  | .int n => .valid (.ofInt n)
  | .float x => .valid x
  | .bool b => .valid (if b then .one else .zero)
  | .string s =>
      match Numeral.readBinary64? s with
      | some x => .valid x
      | none => .fault .numberText
  | _ => .fault .notNumber

/-- An integer, given as one, as a truth value, or as a floating-point number without a
fraction and below the bound of 64-bit integers. -/
def integer : Json → Checked Int
  | .int n => .valid n
  | .bool b => .valid (if b then 1 else 0)
  | .float x =>
      if !x.isFinite then .fault .notFinite
      else if !x.isIntegral then .fault .fractional
      else if x.truncate.natAbs < integerBound then .valid x.truncate
      else .fault .integerTooLarge
  | _ => .fault .notInteger

/-- A length: an integer, a text, or `null`.  A value that is neither is faulty in both
ways. -/
def length? (value : Json) : Checked (Option Length) :=
  match value with
  | .null => .valid none
  | .string s => .valid (some (.text s))
  | value =>
      match integer value with
      | .valid n => .valid (some (.number n))
      | .faulty first rest =>
          .faulty ⟨.member "int" :: first.path, first.problem⟩
            (rest ++ [⟨[.member "str"], .notString⟩])

/-- Reads the items of an array from the given place on. -/
def items {α : Type} (read : Nat → Json → Checked α) (place : Nat) :
    List Json → List (Checked α)
  | [] => []
  | value :: rest => (read place value).under (.item place) :: items read (place + 1) rest

/-- A list; each item is read with its place. -/
def list {α : Type} (read : Nat → Json → Checked α) : Json → Checked (List α)
  | .array values => sequence (items read 0 values)
  | _ => .fault .notArray

def tagKind : Json → Checked TagKind
  | .string s =>
      match TagKind.ofName? s with
      | some kind => .valid kind
      | none => .fault .unknownTagKind
  | _ => .fault .unknownTagKind

def tag : Json → Checked Tag
  | .object fields =>
      let reference : Checked (Option Tag) :=
        match h : Json.member? "reference" fields with
        | none => .valid none
        | some .null => .valid none
        | some value =>
            have := Json.sizeOf_lt_of_member? h
            ((tag value).map some).under (.member "reference")
      ((field fields "name" string).map Tag.mk)
        |>.apply (fieldOr fields "kind" .string tagKind)
        |>.apply (fieldOr fields "value" "" string)
        |>.apply (fieldOr fields "checked" false boolean)
        |>.apply (fieldOr fields "number" .zero number)
        |>.apply reference
  | _ => .fault .notObject
termination_by value => sizeOf value
decreasing_by exact this

/-- The part that every element has; `place` identifies an element without an identity. -/
def elementFields (place : List Nat) (fields : Fields) : Checked Element :=
  ((fieldOr fields "id" (.unnamed place) fun v => (string v).map .named).map Element.mk)
    |>.apply (fieldOr fields "name" "" string)
    |>.apply (fieldOr fields "documentation" "" string)
    |>.apply (fieldOr fields "tags" [] (list fun _ => tag))

/-- The kind that an element states, if it states one, is its own. -/
def kindField (fields : Fields) (kind : ElementKind) : Checked Unit :=
  fieldOr fields "kind" () fun
    | .string s => if s = kind.name then .valid () else .fault (.wrongKind kind.name)
    | _ => .fault (.wrongKind kind.name)

/-- Reads an object of a kind of element: the common part, the kind, and the rest. -/
def ofKind {α : Type} (kind : ElementKind) (place : List Nat)
    (rest : Fields → Checked (Element → α)) : Json → Checked α
  | .object fields =>
      ((elementFields place fields).map fun e (_ : Unit) (f : Element → α) => f e)
        |>.apply (kindField fields kind)
        |>.apply (rest fields)
  | _ => .fault .notObject

def element (place : List Nat) : Json → Checked Element
  | .object fields => elementFields place fields
  | _ => .fault .notObject

def column (place : List Nat) : Json → Checked Column :=
  ofKind .column place fun fields =>
    ((fieldOr fields "type" "VARCHAR" string).map
        fun type length nullable primaryKey unique foreignKey referenceTo e =>
          ⟨e, type, length, nullable, primaryKey, unique, foreignKey, referenceTo⟩)
      |>.apply (fieldOr fields "length" none length?)
      |>.apply (fieldOr fields "nullable" true boolean)
      |>.apply (fieldOr fields "primary_key" false boolean)
      |>.apply (fieldOr fields "unique" false boolean)
      |>.apply (fieldOr fields "foreign_key" false boolean)
      |>.apply (fieldOr fields "reference_to" none string?)

def entity (place : List Nat) : Json → Checked Entity :=
  ofKind .entity place fun fields =>
    (fieldOr fields "columns" [] (list fun i => column (place ++ [i]))).map
      fun columns e => ⟨e, columns⟩

def diagram (place : List Nat) : Json → Checked Diagram :=
  ofKind .diagram place fun fields =>
    (fieldOr fields "owned_elements" [] (list fun i => entity (place ++ [i]))).map
      fun entities e => ⟨e, entities⟩

/-- A member of a data model; its kind decides how it is read. -/
def member (place : List Nat) (value : Json) : Checked Member :=
  match value with
  | .object fields =>
      match Json.member? "kind" fields with
      | none => .fault .noMemberKind
      | some kind =>
          if kind == .string ElementKind.diagram.name then
            ((diagram place value).map .diagram).under (.member ElementKind.diagram.name)
          else if kind == .string ElementKind.entity.name then
            ((entity place value).map .entity).under (.member ElementKind.entity.name)
          else
            .fault (.unknownMemberKind kind.shown)
  | _ => .fault .notMember

def dataModel (place : List Nat) : Json → Checked DataModel :=
  ofKind .dataModel place fun fields =>
    (fieldOr fields "owned_elements" [] (list fun i => member (place ++ [i]))).map
      fun members e => ⟨e, members⟩

def project : Json → Checked Project :=
  ofKind .project [] fun fields =>
    ((fieldOr fields "author" "" string).map fun author dataModels e => ⟨e, author, dataModels⟩)
      |>.apply (fieldOr fields "owned_elements" [] (list fun i => dataModel [i]))

/-- Why a text does not describe what it should. -/
inductive Invalid where
  /-- The text is no JSON. -/
  | syntaxError
  /-- The value has faults. -/
  | faults (first : Fault) (rest : List Fault)
deriving Repr

def Invalid.count : Invalid → Nat
  | .syntaxError => 1
  | .faults _ rest => rest.length + 1

def ofChecked {α : Type} : Checked α → Except Invalid α
  | .valid a => .ok a
  | .faulty first rest => .error (.faults first rest)

def parse {α : Type} (read : Json → Checked α) (s : String) : Except Invalid α :=
  match Json.read? s with
  | none => .error .syntaxError
  | some value => ofChecked (read value)

end Document
end ErdSql
