import ErdSql.Decimal.Binary64

/-!
# JSON values

A JSON value with integers told apart from floating-point numbers, and with the members of an
object in their order.  A reader never produces an object with two members of one name.
-/

namespace ErdSql

/-- A JSON value. -/
inductive Json where
  | null
  | bool (value : Bool)
  | int (value : Int)
  | float (value : Binary64)
  | string (value : String)
  | array (items : List Json)
  | object (members : List (String × Json))
deriving Repr, BEq, Inhabited

namespace Json

def member? (name : String) (members : List (String × Json)) : Option Json :=
  (members.find? fun m => m.1 == name).map (·.2)

/-- The members with one of them set: in its old place if the name is there, and at the end
otherwise. -/
def setMember (name : String) (value : Json) :
    List (String × Json) → List (String × Json)
  | [] => [(name, value)]
  | m :: ms => if m.1 == name then (name, value) :: ms else m :: setMember name value ms

/-- The first members overwritten and extended by the second, one after the other. -/
def overwrite (members updates : List (String × Json)) : List (String × Json) :=
  updates.foldl (fun acc m => setMember m.1 m.2 acc) members

/-- A member is smaller than the object it belongs to. -/
theorem sizeOf_lt_of_member? {name : String} {members : List (String × Json)} {value : Json}
    (h : member? name members = some value) : sizeOf value < sizeOf (object members) := by
  obtain ⟨m, hm, rfl⟩ := Option.map_eq_some_iff.1 h
  have hmem := List.sizeOf_lt_of_mem (List.mem_of_find?_eq_some hm)
  have : sizeOf m.2 < sizeOf m := by
    cases m
    simp +arith
  simp
  omega

/-- A text that may be missing; `null` stands for it. -/
def ofString? : Option String → Json
  | some s => .string s
  | none => .null

def ofStrings (texts : List String) : Json :=
  .array (texts.map .string)

def ofNat (n : Nat) : Json :=
  .int n

end Json
end ErdSql
