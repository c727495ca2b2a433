import ErdSql.Text.Blank
import ErdSql.Text.Digit
import ErdSql.Decimal.Binary64

/-!
# Numerals

Reading integers and floating-point numbers from text.  An integer may have white space around
it, a sign, digits of any script, and single underscores between digits.  A floating-point
number has ASCII digits, with a point and an exponent as usual, or is one of the names of the
infinities and of the value that is no number.
-/

namespace ErdSql
namespace Numeral

open Text

/-- Whether no two underscores stand together and none stands at the end. -/
def underscoresSeparate : List Char → Bool
  | [] => true
  | [c] => c != '_'
  | c :: d :: cs => !(c == '_' && d == '_') && underscoresSeparate (d :: cs)

/-- Whether every underscore stands between two other characters. -/
def isGrouped (cs : List Char) : Bool :=
  cs.head? != some '_' && underscoresSeparate cs

/-- Why a text is no integer. -/
inductive IntegerFault where
  | malformed
  | tooLong (digits : Nat)
deriving DecidableEq, Repr

/-- The greatest number of digits an integer may have. -/
def maxDigits : Nat := 4300

/-- Whether a character may stand among the digits of an integer. -/
def isDigitOrUnderscore (c : Char) : Bool :=
  isDigit c || c == '_'

/-- The number that digits of any script stand for; other characters do not count. -/
def digitsValue (cs : List Char) : Nat :=
  (cs.filterMap digitValue?).foldl (fun n d => n * 10 + d) 0

/-- Reads an integer.  That it has too many digits is found before what follows them. -/
def readInt (s : String) : Except IntegerFault Int :=
  let body := trimChars isWhiteSpace s.toList
  let isSigned := body.head? == some '-' || body.head? == some '+'
  let unsigned := if isSigned then body.tail else body
  let run := unsigned.takeWhile isDigitOrUnderscore
  let count := run.countP isDigit
  if run = [] ∨ ¬ isGrouped run then .error .malformed
  else if maxDigits < count then .error (.tooLong count)
  else if run.length ≠ unsigned.length then .error .malformed
  else
    let n : Int := digitsValue run
    .ok (if body.head? == some '-' then -n else n)

/-- The value of a run of ASCII digits. -/
def asciiDigits (cs : List Char) : Nat :=
  cs.foldl (fun n c => n * 10 + (c.toNat - '0'.toNat)) 0

/-- Reads an exponent: a sign or none, and digits. -/
def exponent? (cs : List Char) : Option Int :=
  let unsigned := if cs.head? == some '-' || cs.head? == some '+' then cs.tail else cs
  if unsigned = [] ∨ ¬ unsigned.all Char.isDigit then none
  else
    let n : Int := asciiDigits unsigned
    some (if cs.head? == some '-' then -n else n)

/-- Reads an unsigned decimal: digits with at most one point among them or at an end, and an
exponent or none. -/
def decimal? (negative : Bool) (cs : List Char) : Option Binary64 :=
  let whole := cs.takeWhile Char.isDigit
  let afterWhole := cs.dropWhile Char.isDigit
  let fraction :=
    if afterWhole.head? == some '.' then afterWhole.tail.takeWhile Char.isDigit else []
  let rest :=
    if afterWhole.head? == some '.' then afterWhole.tail.dropWhile Char.isDigit else afterWhole
  if whole = [] ∧ fraction = [] then none
  else
    let scaled (e : Int) : Binary64 :=
      .ofDecimal negative (asciiDigits (whole ++ fraction)) (e - fraction.length)
    match rest with
    | [] => some (scaled 0)
    | c :: exponent => if c = 'e' ∨ c = 'E' then (exponent? exponent).map scaled else none

/-- Reads a floating-point number without anything around it. -/
def bareBinary64? (cs : List Char) : Option Binary64 :=
  let negative := cs.head? == some '-'
  let unsigned := if cs.head? == some '-' || cs.head? == some '+' then cs.tail else cs
  let name := unsigned.map Char.toLower
  if name = "nan".toList then some (.nan negative)
  else if name = "inf".toList ∨ name = "infinity".toList then some (.infinity negative)
  else decimal? negative unsigned

/-- Reads a floating-point number: white space around it is allowed, and single underscores
inside it are, but not both. -/
def readBinary64? (s : String) : Option Binary64 :=
  match bareBinary64? (trimChars isWhiteSpace s.toList) with
  | some x => some x
  | none =>
      if isGrouped s.toList then bareBinary64? (s.toList.filter (· != '_'))
      else none

end Numeral
end ErdSql
