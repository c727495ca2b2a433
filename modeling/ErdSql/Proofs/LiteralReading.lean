import ErdSql.Sql.Literal

/-!
# Reading literals

A literal is read by the rules of PostgreSQL.  It goes up to the first quote that is not written
twice.  In an escape string, which is marked by the letter E, a backslash and the character after
it stand for one character.  What is read here is always what a server reads; a few forms that
scripts never contain are not read at all: null characters, escapes that give the number of a
character, and values that are not followed at once by what ends them, for after a blank a literal
may go on on another line.
-/

namespace ErdSql
namespace Sql

def nullChar : Char := Char.ofNat 0

theorem hasLiteral_iff (s : String) : hasLiteral s = true ↔ nullChar ∉ s.toList := by
  simp [hasLiteral, nullChar]

/-- The character that a backslash and the given character stand for in an escape string. -/
def escaped? (c : Char) : Option Char :=
  if c = 'b' then some '\x08'
  else if c = 'f' then some '\x0c'
  else if c = 'n' then some '\n'
  else if c = 'r' then some '\r'
  else if c = 't' then some '\t'
  else if c.isDigit || c == 'x' || c == 'u' || c == 'U' || c == nullChar then none
  else some c

/-- Reads up to the closing quote; the text, and what follows the literal. -/
def readQuoted (escapes : Bool) : List Char → Option (List Char × List Char)
  | [] => none
  | c :: rest =>
      if c = '\'' then
        match rest with
        | '\'' :: more => (readQuoted escapes more).map fun read => ('\'' :: read.1, read.2)
        | _ => some ([], rest)
      else if escapes && c == '\\' then
        match rest with
        | [] => none
        | d :: more =>
            match escaped? d with
            | none => none
            | some e => (readQuoted escapes more).map fun read => (e :: read.1, read.2)
      else if c = nullChar then none
      else (readQuoted escapes rest).map fun read => (c :: read.1, read.2)

/-- Whether what follows a value ends it. -/
def endsValue : List Char → Bool
  | [] => true
  | c :: _ => c == ',' || c == ')' || c == ';'

def readLiteral (escapes : Bool) (cs : List Char) : Option (Option String × List Char) :=
  match readQuoted escapes cs with
  | none => none
  | some (text, rest) => if endsValue rest then some (some (String.ofList text), rest) else none

/-- Reads a literal or the missing value, after blanks; the value, and what follows it. -/
def readValue : List Char → Option (Option String × List Char)
  | ' ' :: cs => readValue cs
  | '\'' :: cs => readLiteral false cs
  | 'E' :: '\'' :: cs => readLiteral true cs
  | 'N' :: 'U' :: 'L' :: 'L' :: cs => if endsValue cs then some (none, cs) else none
  | _ => none

/-- Reads values with commas between them. -/
def readValues : Nat → List Char → Option (List (Option String) × List Char)
  | 0, cs => some ([], cs)
  | 1, cs => (readValue cs).map fun read => ([read.1], read.2)
  | n + 2, cs =>
      match readValue cs with
      | some (value, ',' :: rest) =>
          (readValues (n + 1) rest).map fun read => (value :: read.1, read.2)
      | _ => none

theorem readValues_blank (n : Nat) (cs : List Char) :
    readValues (n + 1) (' ' :: cs) = readValues (n + 1) cs := by
  cases n <;> rfl

theorem head?_ne_of_endsValue {rest : List Char} (h : endsValue rest = true) :
    rest.head? ≠ some '\'' := by
  cases rest with
  | nil => simp
  | cons c rest =>
      rintro hhead
      obtain rfl : c = '\'' := Option.some.inj hhead
      exact absurd h (by simp [endsValue])

theorem readQuoted_cons {escapes : Bool} {c : Char} (hquote : c ≠ '\'') (hback : c ≠ '\\')
    (hnull : c ≠ nullChar) (rest : List Char) :
    readQuoted escapes (c :: rest) =
      (readQuoted escapes rest).map fun read => (c :: read.1, read.2) := by
  rw [readQuoted.eq_def]
  simp [hquote, hback, hnull]

/-- The characters of a literal are read back, and reading stops right after its closing quote. -/
theorem readQuoted_literalChar {escapes : Bool} {cs : List Char} (hnull : nullChar ∉ cs)
    (hbackslash : escapes = true ∨ '\\' ∉ cs) {rest : List Char}
    (hrest : rest.head? ≠ some '\'') :
    readQuoted escapes (cs.flatMap literalChar ++ '\'' :: rest) = some (cs, rest) := by
  induction cs with
  | nil =>
      cases rest with
      | nil => rfl
      | cons c rest =>
          have hc : c ≠ '\'' := fun hc => hrest (congrArg some hc)
          simp [readQuoted, hc]
  | cons c cs ih =>
      rw [List.mem_cons, not_or] at hnull
      have hread := ih hnull.2 (hbackslash.imp_right fun h hmem => h (List.mem_cons_of_mem _ hmem))
      rw [List.flatMap_cons, List.append_assoc]
      by_cases hquote : c = '\''
      · subst hquote
        simp [literalChar, readQuoted, hread]
      by_cases hback : c = '\\'
      · subst hback
        -- only an escape string holds a backslash
        have hescapes : escapes = true :=
          hbackslash.resolve_right fun h => h (List.mem_cons_self ..)
        subst hescapes
        have hsame : escaped? '\\' = some '\\' := by decide
        simp [literalChar, readQuoted, hread, hsame]
      · have hchar : c ≠ nullChar := fun h => hnull.1 h.symm
        have hsingle : literalChar c = [c] := by simp [literalChar, hquote, hback]
        rw [hsingle, List.singleton_append, readQuoted_cons hquote hback hchar, hread]
        rfl

/-- A literal is read back, and reading stops right after it. -/
theorem readValue_literal {value : Option String}
    (hvalue : ∀ s, value = some s → hasLiteral s = true) {rest : List Char}
    (hrest : endsValue rest = true) :
    readValue ((literal value).toList ++ rest) = some (value, rest) := by
  cases value with
  | none => simp [literal, readValue, hrest]
  | some s =>
      have hnull := (hasLiteral_iff s).1 (hvalue s rfl)
      have hhead := head?_ne_of_endsValue hrest
      have hliteral : ∀ escapes : Bool, (escapes = true ∨ '\\' ∉ s.toList) →
          readLiteral escapes (s.toList.flatMap literalChar ++ '\'' :: rest) =
            some (some s, rest) := by
        intro escapes hbackslash
        rw [readLiteral, readQuoted_literalChar hnull hbackslash hhead]
        simp [hrest]
      rw [literal, String.toList_ofList, literalChars]
      by_cases hbackslash : '\\' ∈ s.toList
      · rw [if_pos hbackslash]
        simpa [readValue] using hliteral true (Or.inl rfl)
      · rw [if_neg hbackslash]
        simpa [readValue] using hliteral false (Or.inr hbackslash)

/-- Literals with commas between them are read back. -/
theorem readValues_literals {values : List (Option String)}
    (hvalues : ∀ s, some s ∈ values → hasLiteral s = true) {rest : List Char}
    (hrest : endsValue rest = true) :
    readValues values.length
        ((String.intercalate ", " (values.map literal)).toList ++ rest) =
      some (values, rest) := by
  induction values with
  | nil => rfl
  | cons value values ih =>
      have hvalue : ∀ s, value = some s → hasLiteral s = true :=
        fun s hs => hvalues s (hs ▸ List.mem_cons_self ..)
      cases values with
      | nil => simp [readValues, readValue_literal hvalue hrest]
      | cons next values =>
          have hothers := ih fun s hs => hvalues s (List.mem_cons_of_mem _ hs)
          generalize hcs :
            (String.intercalate ", " ((next :: values).map literal)).toList ++ rest = cs at hothers
          have hsplit : (String.intercalate ", " ((value :: next :: values).map literal)).toList ++
              rest = (literal value).toList ++ ',' :: ' ' :: cs := by
            rw [← hcs, List.map_cons, List.map_cons, String.intercalate_cons_cons]
            simp [String.toList_append]
          have hfirst : readValue ((literal value).toList ++ ',' :: ' ' :: cs) =
              some (value, ',' :: ' ' :: cs) := readValue_literal hvalue rfl
          rw [hsplit, List.length_cons, List.length_cons, readValues, hfirst]
          simp only [readValues_blank]
          rw [← List.length_cons, hothers]
          rfl

/-- A text with a quote, a backslash and line breaks, and a missing value. -/
example :
    readValues 2 " E'it''s \\\\\r\n\n''', NULL);\n".toList =
      some ([some "it's \\\r\n\n'", none], ");\n".toList) := by
  decide +kernel

end Sql
end ErdSql
