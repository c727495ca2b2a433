/-!
# Pieces of a text

Splitting a text at separators and into lines, and looking for a part.  Splitting at separators
always gives at least one piece and loses nothing but the separators.  A line break ends a line,
so a text that ends in a line break has no empty line after it.
-/

namespace ErdSql
namespace Text

/-- The pieces between the characters of the class; one more piece than separators. -/
def splitChars (sep : Char → Bool) : List Char → List (List Char)
  | [] => [[]]
  | c :: cs =>
      if sep c then
        [] :: splitChars sep cs
      else
        match splitChars sep cs with
        | [] => [[c]]
        | piece :: pieces => (c :: piece) :: pieces

theorem splitChars_ne_nil (sep : Char → Bool) (cs : List Char) :
    splitChars sep cs ≠ [] := by
  cases cs with
  | nil => simp [splitChars]
  | cons c cs =>
      unfold splitChars
      split
      · simp
      · split <;> simp

theorem not_sep_of_mem_splitChars {sep : Char → Bool} {cs piece : List Char} {c : Char}
    (hp : piece ∈ splitChars sep cs) (hc : c ∈ piece) : sep c = false := by
  induction cs generalizing piece with
  | nil => simp_all [splitChars]
  | cons d cs ih =>
      unfold splitChars at hp
      split at hp
      · rcases List.mem_cons.1 hp with rfl | hp
        · simp at hc
        · exact ih hp hc
      · rename_i hd
        split at hp
        · simp_all
        · rename_i first rest hsplit
          rcases List.mem_cons.1 hp with rfl | hp
          · rcases List.mem_cons.1 hc with rfl | hc
            · simpa using hd
            · exact ih (by rw [hsplit]; exact List.mem_cons_self ..) hc
          · exact ih (by rw [hsplit]; exact List.mem_cons_of_mem _ hp) hc

theorem length_splitChars (sep : Char → Bool) (cs : List Char) :
    (splitChars sep cs).length = cs.countP sep + 1 := by
  induction cs with
  | nil => rfl
  | cons c cs ih =>
      unfold splitChars
      split
      · rename_i h
        simp [ih, h]
      · rename_i h
        split
        · rename_i hnil
          exact absurd hnil (splitChars_ne_nil sep cs)
        · rename_i first rest hsplit
          rw [hsplit] at ih
          simpa [h] using ih

/-- The pieces of the text between the characters of the class. -/
def splitAtAny (sep : Char → Bool) (s : String) : List String :=
  (splitChars sep s.toList).map String.ofList

/-- The pieces of the text between the occurrences of the character. -/
def splitAt (sep : Char) (s : String) : List String :=
  splitAtAny (· == sep) s

/-- The characters that end a line; a carriage return before a line feed ends it together with
the line feed. -/
def isLineEnd (c : Char) : Bool :=
  let n := c.toNat
  (0x0A ≤ n && n ≤ 0x0D) || (0x1C ≤ n && n ≤ 0x1E) || n == 0x85 || n == 0x2028 || n == 0x2029

def lineChars : List Char → List (List Char)
  | [] => []
  | '\r' :: '\n' :: cs => [] :: lineChars cs
  | c :: cs =>
      if isLineEnd c then
        [] :: lineChars cs
      else
        match lineChars cs with
        | [] => [[c]]
        | line :: lines => (c :: line) :: lines

def lines (s : String) : List String :=
  (lineChars s.toList).map String.ofList

/-- Whether the characters occur one after the other somewhere in the list. -/
def containsChars (part : List Char) : List Char → Bool
  | [] => part.isEmpty
  | c :: cs => part.isPrefixOf (c :: cs) || containsChars part cs

def contains (part s : String) : Bool :=
  containsChars part.toList s.toList

/-- The text with every occurrence of one character replaced by another. -/
def replaceChar (old new : Char) (s : String) : String :=
  String.ofList (s.toList.map fun c => if c = old then new else c)

end Text
end ErdSql
