import ErdSql.Decimal.Notation
import ErdSql.Json.Basic
import ErdSql.Text.Quoted

/-!
# Printing JSON values

Two printed forms of a value.  `Json.print` is JSON on one line, in ASCII only, with a blank
after each comma and colon.  `Json.shown` is the form in which a value appears inside a message
or becomes a text: a text stands for itself, the constants are spelled `True`, `False` and
`None`, and texts inside arrays and objects are quoted.
-/

namespace ErdSql
namespace Json

open Text

/-- Numbers in JSON text; the values that JSON has no numeral for are written by name. -/
def printedNumber : NumberFormat :=
  { shownNumber with nan := "NaN", infinity := "Infinity" }

/-- The two halves in which a character beyond the sixteen-bit range is escaped. -/
def surrogates (n : Nat) : Nat × Nat :=
  (0xD800 + (n - 0x10000) / 0x400, 0xDC00 + (n - 0x10000) % 0x400)

def escapedChar (c : Char) : List Char :=
  let n := c.toNat
  if c = '"' then ['\\', '"']
  else if c = '\\' then ['\\', '\\']
  else if c = '\n' then ['\\', 'n']
  else if c = '\r' then ['\\', 'r']
  else if c = '\t' then ['\\', 't']
  else if n = 0x08 then ['\\', 'b']
  else if n = 0x0C then ['\\', 'f']
  else if 0x20 ≤ n ∧ n ≤ 0x7E then [c]
  else if n < 0x10000 then '\\' :: 'u' :: hexDigits 4 n
  else
    '\\' :: 'u' :: hexDigits 4 (surrogates n).1 ++ '\\' :: 'u' :: hexDigits 4 (surrogates n).2

def printString (s : String) : String :=
  String.ofList ('"' :: s.toList.flatMap escapedChar ++ ['"'])

mutual

def print : Json → String
  | .null => "null"
  | .bool true => "true"
  | .bool false => "false"
  | .int n => toString n
  | .float x => printedNumber.write x
  | .string s => printString s
  | .array items => "[" ++ String.intercalate ", " (printItems items) ++ "]"
  | .object members => "\x7b" ++ String.intercalate ", " (printMembers members) ++ "\x7d"

def printItems : List Json → List String
  | [] => []
  | item :: items => item.print :: printItems items

def printMembers : List (String × Json) → List String
  | [] => []
  | (name, value) :: members =>
      (printString name ++ ": " ++ value.print) :: printMembers members

end

mutual

/-- The value as it appears inside another one that is shown. -/
def shownInside : Json → String
  | .null => "None"
  | .bool true => "True"
  | .bool false => "False"
  | .int n => toString n
  | .float x => shownNumber.write x
  | .string s => quoted s
  | .array items => "[" ++ String.intercalate ", " (shownItems items) ++ "]"
  | .object members => "\x7b" ++ String.intercalate ", " (shownMembers members) ++ "\x7d"

def shownItems : List Json → List String
  | [] => []
  | item :: items => item.shownInside :: shownItems items

def shownMembers : List (String × Json) → List String
  | [] => []
  | (name, value) :: members =>
      (quoted name ++ ": " ++ value.shownInside) :: shownMembers members

end

def shown : Json → String
  | .string s => s
  | value => value.shownInside

end Json
end ErdSql
