import ErdSql.Text.CaseTable

/-!
# Lower case

The lower-case form of a text, by the full Unicode mapping: a capital I with a dot above becomes
two characters, and a capital sigma becomes a final sigma when it ends a word, that is, when
the nearest letter before it is there and no letter follows.  Characters that carry no case of
their own, such as accents and apostrophes, are skipped when those neighbours are looked for.
-/

namespace ErdSql
namespace Text

/-- Whether the character is a letter with case, for the neighbours of a sigma. -/
def isCased (c : Char) : Bool :=
  casedRanges.has c

/-- Whether the character is skipped when the neighbours of a sigma are looked for. -/
def isCaseIgnorable (c : Char) : Bool :=
  caseIgnorableRanges.has c

/-- The lower-case form of a character that is no sigma: one character or, for the capital I
with a dot above, two. -/
def lowerChar (c : Char) : List Char :=
  if c.toNat < 0x80 then
    [c.toLower]
  else if c.toNat = 0x130 then
    ['i', Char.ofNat 0x307]
  else
    match capitalRuns.findSome? (·.lowerOf? c.toNat) with
    | some n => [Char.ofNat n]
    | none => [c]

/-- Whether the next character that counts is a cased letter. -/
def letterFollows (cs : List Char) : Bool :=
  match cs.dropWhile isCaseIgnorable with
  | [] => false
  | c :: _ => isCased c

/-- The lower-case form of a text; `letterBefore` tells whether the last character before it
that counts is a cased letter. -/
def lowerChars (letterBefore : Bool) : List Char → List Char
  | [] => []
  | c :: cs =>
      let before := if isCaseIgnorable c then letterBefore else isCased c
      if c = 'Σ' then
        (if letterBefore && !letterFollows cs then 'ς' else 'σ') :: lowerChars before cs
      else
        lowerChar c ++ lowerChars before cs

def lower (s : String) : String :=
  String.ofList (lowerChars false s.toList)

end Text
end ErdSql
