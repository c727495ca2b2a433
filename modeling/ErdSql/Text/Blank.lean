/-!
# Blank characters

White space in the sense of the Unicode property, the slightly wider set of blank characters
that trimming removes, and trimming itself.  Text is handled as a list of characters; the
functions on strings are wrappers.
-/

namespace ErdSql
namespace Text

/-- The characters with the Unicode property White_Space. -/
def isWhiteSpace (c : Char) : Bool :=
  let n := c.toNat
  (0x09 ≤ n && n ≤ 0x0D) || n == 0x20 || n == 0x85 || n == 0xA0 || n == 0x1680 ||
    (0x2000 ≤ n && n ≤ 0x200A) || n == 0x2028 || n == 0x2029 || n == 0x202F ||
    n == 0x205F || n == 0x3000

/-- White space and the four information separators. -/
def isBlank (c : Char) : Bool :=
  isWhiteSpace c || (0x1C ≤ c.toNat && c.toNat ≤ 0x1F)

/-- All the white space that core knows is white space here. -/
theorem isWhiteSpace_of_isWhitespace {c : Char}
    (h : c.isWhitespace = true) : isWhiteSpace c = true := by
  simp only [Char.isWhitespace, Bool.or_eq_true, decide_eq_true_eq] at h
  rcases h with ((rfl | rfl) | rfl) | rfl <;> decide

theorem isBlank_of_isWhiteSpace {c : Char}
    (h : isWhiteSpace c = true) : isBlank c = true := by
  simp [isBlank, h]

/-- The characters left when those of the class are removed from both ends. -/
def trimChars (p : Char → Bool) (cs : List Char) : List Char :=
  ((cs.dropWhile p).reverse.dropWhile p).reverse

/-- The text without the blank characters at its ends. -/
def trim (s : String) : String :=
  String.ofList (trimChars isBlank s.toList)

/-- The text without the white space at its ends. -/
def trimWhiteSpace (s : String) : String :=
  String.ofList (trimChars isWhiteSpace s.toList)

/-- Whether nothing but blank characters is in the text. -/
def isAllBlank (s : String) : Bool :=
  s.toList.all isBlank

@[simp] theorem trimChars_nil (p : Char → Bool) : trimChars p [] = [] := rfl

end Text
end ErdSql
