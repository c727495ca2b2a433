import ErdSql.Decimal.Numeral
import ErdSql.Json.Basic

/-!
# Reading JSON

A strict reader of JSON text.  Beside the standard it knows the names `NaN`, `Infinity` and
`-Infinity`; an escape for half a character is refused unless the other half follows; of
members with one name the last value counts.  Arrays and objects that are not empty nest at
most to a given depth, and a numeral has at most a given number of digits before its point.
-/

namespace ErdSql
namespace Json

def isGap (c : Char) : Bool :=
  c == ' ' || c == '\t' || c == '\n' || c == '\r'

def skipGap (cs : List Char) : List Char :=
  cs.dropWhile isGap

def hexValue? (c : Char) : Option Nat :=
  if '0' ≤ c ∧ c ≤ '9' then some (c.toNat - '0'.toNat)
  else if 'a' ≤ c ∧ c ≤ 'f' then some (c.toNat - 'a'.toNat + 10)
  else if 'A' ≤ c ∧ c ≤ 'F' then some (c.toNat - 'A'.toNat + 10)
  else none

def hexUnit? (a b c d : Char) : Option Nat := do
  let a ← hexValue? a
  let b ← hexValue? b
  let c ← hexValue? c
  let d ← hexValue? d
  return ((a * 16 + b) * 16 + c) * 16 + d

/-- The character that stands behind a backslash for another one. -/
def escaped? : Char → Option Char
  | '"' => some '"'
  | '\\' => some '\\'
  | '/' => some '/'
  | 'b' => some (Char.ofNat 0x08)
  | 'f' => some (Char.ofNat 0x0C)
  | 'n' => some '\n'
  | 'r' => some '\r'
  | 't' => some '\t'
  | _ => none

/-- Reads the rest of a string after its opening quote; `done` holds the characters so far, the
last one first. -/
def readString? (done : List Char) : List Char → Option (String × List Char)
  | [] => none
  | '"' :: cs => some (String.ofList done.reverse, cs)
  | '\\' :: 'u' :: a :: b :: c :: d :: '\\' :: 'u' :: a' :: b' :: c' :: d' :: cs =>
      match hexUnit? a b c d with
      | none => none
      | some n =>
          if 0xDC00 ≤ n ∧ n < 0xE000 then none
          else if 0xD800 ≤ n ∧ n < 0xDC00 then
            match hexUnit? a' b' c' d' with
            | none => none
            | some m =>
                if 0xDC00 ≤ m ∧ m < 0xE000 then
                  readString?
                    (Char.ofNat (0x10000 + (n - 0xD800) * 0x400 + (m - 0xDC00)) :: done) cs
                else
                  none
          else
            readString? (Char.ofNat n :: done) ('\\' :: 'u' :: a' :: b' :: c' :: d' :: cs)
  | '\\' :: 'u' :: a :: b :: c :: d :: cs =>
      match hexUnit? a b c d with
      | none => none
      | some n =>
          if 0xD800 ≤ n ∧ n < 0xE000 then none
          else readString? (Char.ofNat n :: done) cs
  | '\\' :: c :: cs =>
      match escaped? c with
      | some e => readString? (e :: done) cs
      | none => none
  | c :: cs => if c.toNat < 0x20 then none else readString? (c :: done) cs

/-- The most digits that a numeral has before its point. -/
def maxWhole : Nat := 4300

def readNumber? (negative : Bool) (cs : List Char) : Option (Json × List Char) :=
  let whole := cs.takeWhile Char.isDigit
  let afterWhole := cs.dropWhile Char.isDigit
  let hasPoint := afterWhole.head? == some '.'
  let fraction := if hasPoint then afterWhole.tail.takeWhile Char.isDigit else []
  let afterFraction := if hasPoint then afterWhole.tail.dropWhile Char.isDigit else afterWhole
  let hasExponent := afterFraction.head? == some 'e' || afterFraction.head? == some 'E'
  let signed := afterFraction.tail
  let hasSign := signed.head? == some '-' || signed.head? == some '+'
  let unsigned := if hasSign then signed.tail else signed
  let exponent := if hasExponent then unsigned.takeWhile Char.isDigit else []
  let rest := if hasExponent then unsigned.dropWhile Char.isDigit else afterFraction
  if whole = [] ∨ (whole.head? = some '0' ∧ whole.length ≠ 1) then none
  else if maxWhole < whole.length then none
  else if hasPoint && fraction == [] then none
  else if hasExponent && exponent == [] then none
  else if !hasPoint && !hasExponent then
    let n : Int := Numeral.asciiDigits whole
    some (.int (if negative then -n else n), rest)
  else
    let e : Int := Numeral.asciiDigits exponent
    let e := if hasExponent && signed.head? == some '-' then -e else e
    some (.float (.ofDecimal negative (Numeral.asciiDigits (whole ++ fraction))
      (e - fraction.length)), rest)

/-- The text after the given word, if it begins with it. -/
def after? (word : String) (cs : List Char) : Option (List Char) :=
  if word.toList.isPrefixOf cs then some (cs.drop word.length) else none

def readScalar? (cs : List Char) : Option (Json × List Char) :=
  match cs with
  | 'n' :: _ => (after? "null" cs).map (Json.null, ·)
  | 't' :: _ => (after? "true" cs).map (Json.bool true, ·)
  | 'f' :: _ => (after? "false" cs).map (Json.bool false, ·)
  | 'N' :: _ => (after? "NaN" cs).map (Json.float (.nan false), ·)
  | 'I' :: _ => (after? "Infinity" cs).map (Json.float (.infinity false), ·)
  | '-' :: 'I' :: _ => (after? "-Infinity" cs).map (Json.float (.infinity true), ·)
  | '-' :: cs => readNumber? true cs
  | cs => readNumber? false cs

mutual

/-- Reads a value; `depth` bounds the nesting and `fuel` the steps. -/
def readValue? (depth : Nat) : Nat → List Char → Option (Json × List Char)
  | 0, _ => none
  | fuel + 1, cs =>
      match cs with
      | '"' :: cs => (readString? [] cs).map fun (s, rest) => (.string s, rest)
      | '[' :: cs =>
          match skipGap cs with
          | ']' :: rest => some (.array [], rest)
          | cs =>
              match depth with
              | 0 => none
              | depth + 1 =>
                  (readItems? depth fuel cs).map fun (items, rest) => (.array items, rest)
      | '\x7b' :: cs =>
          match skipGap cs with
          | '\x7d' :: rest => some (.object [], rest)
          | cs =>
              match depth with
              | 0 => none
              | depth + 1 =>
                  (readMembers? depth fuel [] cs).map fun (members, rest) =>
                    (.object members, rest)
      | cs => readScalar? cs

def readItems? (depth : Nat) : Nat → List Char → Option (List Json × List Char)
  | 0, _ => none
  | fuel + 1, cs =>
      match readValue? depth fuel cs with
      | none => none
      | some (item, rest) =>
          match skipGap rest with
          | ',' :: rest =>
              (readItems? depth fuel (skipGap rest)).map fun (items, rest) =>
                (item :: items, rest)
          | ']' :: rest => some ([item], rest)
          | _ => none

/-- Reads the members of an object up to its end, onto the members so far. -/
def readMembers? (depth : Nat) :
    Nat → List (String × Json) → List Char → Option (List (String × Json) × List Char)
  | 0, _, _ => none
  | fuel + 1, members, cs =>
      match cs with
      | '"' :: cs =>
          match readString? [] cs with
          | none => none
          | some (name, rest) =>
              match skipGap rest with
              | ':' :: rest =>
                  match readValue? depth fuel (skipGap rest) with
                  | none => none
                  | some (value, rest) =>
                      let members := setMember name value members
                      match skipGap rest with
                      | ',' :: rest => readMembers? depth fuel members (skipGap rest)
                      | '\x7d' :: rest => some (members, rest)
                      | _ => none
              | _ => none
      | _ => none

end

/-- Reads a whole text as one value, with arrays and objects nested at most to the given
depth. -/
def readTo? (depth : Nat) (s : String) : Option Json :=
  let cs := skipGap s.toList
  match readValue? depth (2 * cs.length + 2) cs with
  | some (value, rest) => if skipGap rest = [] then some value else none
  | none => none

/-- How deep the arrays and objects of a document may nest. -/
def maxDepth : Nat := 200

def read? (s : String) : Option Json :=
  readTo? maxDepth s

end Json
end ErdSql
