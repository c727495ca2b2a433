import ErdSql.Decimal.Binary64

/-!
# Tags

A tag is a typed annotation that a modeller attaches to an element.  What its parts mean
depends on its name: most tags override a default by their value, an index tag also carries a
position and a direction, and a reference tag carries opaque SQL and points at another tag that
says what the SQL is for.

The module gives the tags themselves and the queries over the list of tags of one element.  An
element may have several tags of one name; the first one decides where only one is asked for.
-/

namespace ErdSql

/-- The kinds of tags. -/
inductive TagKind where
  | string
  | boolean
  | number
  | reference
  | hidden
deriving DecidableEq, Repr

def TagKind.name : TagKind → String
  | .string => "string"
  | .boolean => "boolean"
  | .number => "number"
  | .reference => "reference"
  | .hidden => "hidden"

def TagKind.all : List TagKind :=
  [.string, .boolean, .number, .reference, .hidden]

def TagKind.ofName? (name : String) : Option TagKind :=
  TagKind.all.find? fun kind => kind.name == name

/-- A typed annotation. -/
structure Tag where
  name : String
  kind : TagKind := .string
  value : String := ""
  checked : Bool := false
  number : Binary64 := .zero
  /-- The tag that a reference tag points at. -/
  reference : Option Tag := none
deriving Repr, BEq, Inhabited

namespace Tag

def ofString (name value : String) : Tag :=
  { name := name, value := value }

/-- Whether the tag is a reference to a tag with the given name. -/
def targets (tag : Tag) (marker : String) : Bool :=
  tag.kind == .reference &&
    match tag.reference with
    | some target => target.name == marker
    | none => false

/-- Whether the tag is a reference to a tag that refers in turn to one with the given name. -/
def targetsThrough (tag : Tag) (marker : String) : Bool :=
  tag.kind == .reference &&
    match tag.reference with
    | some target =>
        match target.reference with
        | some final => final.name == marker
        | none => false
    | none => false

/-- The value of the tag that a reference tag points at. -/
def referenceValue (tag : Tag) : String :=
  match tag.reference with
  | some target => target.value
  | none => ""

end Tag

abbrev Tags : Type := List Tag

namespace Tags

def find? (tags : Tags) (name : String) : Option Tag :=
  List.find? (fun tag => tag.name == name) tags

def named (tags : Tags) (name : String) : List Tag :=
  tags.filter fun tag => tag.name == name

/-- The value of the first tag with the given name; empty if there is none. -/
def valueOf (tags : Tags) (name : String) : String :=
  match tags.find? name with
  | some tag => tag.value
  | none => ""

/-- The reference tags that point at the marker. -/
def pointingAt (tags : Tags) (marker : String) : List Tag :=
  tags.filter fun tag => tag.targets marker

/-- The reference tags that point at a tag which points at the marker. -/
def pointingThrough (tags : Tags) (marker : String) : List Tag :=
  tags.filter fun tag => tag.targetsThrough marker

end Tags
end ErdSql
