/-!
# Sets of characters

A set of characters given by ranges of code points, as the tables of character data give it.
-/

namespace ErdSql
namespace Text

/-- A set of characters: ranges of code points, both ends included. -/
abbrev CharSet : Type := List (Nat × Nat)

def CharSet.has (set : CharSet) (c : Char) : Bool :=
  set.any fun r => r.1 ≤ c.toNat && c.toNat ≤ r.2

theorem CharSet.has_iff {set : CharSet} {c : Char} :
    set.has c = true ↔ ∃ r ∈ set, r.1 ≤ c.toNat ∧ c.toNat ≤ r.2 := by
  simp [CharSet.has, List.any_eq_true]

end Text
end ErdSql
