import ErdSql.Decimal.Shortest

/-!
# Notation of a number

The written form of a binary floating-point number: its shortest decimal, positional with a
point and at least one digit on either side while the point falls within a certain distance of
the digits, and with an exponent otherwise.
-/

namespace ErdSql

/-- How numbers are written. -/
structure NumberFormat where
  /-- The least number of digits before the point that is written positionally. -/
  leastBefore : Int
  /-- The greatest number of digits before the point that is written positionally. -/
  mostBefore : Int
  exponentWidth : Nat
  nan : String
  infinity : String

namespace NumberFormat

/-- An exponent with its sign, filled up with zeros. -/
def exponentText (format : NumberFormat) (e : Int) : List Char :=
  let digits := (toString e.natAbs).toList
  (if e < 0 then '-' else '+') ::
    (List.replicate (format.exponentWidth - digits.length) '0' ++ digits)

/-- Digits with a point after the first `before` of them, filled up with zeros. -/
def positional (digits : List Char) (before : Int) : List Char :=
  if before ≤ 0 then
    '0' :: '.' :: (List.replicate (-before).toNat '0' ++ digits)
  else
    let whole := digits.take before.toNat
    let fraction := digits.drop before.toNat
    whole ++ List.replicate (before.toNat - digits.length) '0' ++
      '.' :: (if fraction = [] then ['0'] else fraction)

/-- Digits with a point after the first of them, if more follow, and an exponent. -/
def scientific (format : NumberFormat) (digits : List Char) (before : Int) : List Char :=
  let fraction := digits.drop 1
  digits.take 1 ++ (if fraction = [] then [] else '.' :: fraction) ++
    'e' :: format.exponentText (before - 1)

def decimal (format : NumberFormat) (d : Binary64.Decimal) : List Char :=
  let before := (d.text.length : Int) + d.exponent
  if format.leastBefore ≤ before ∧ before ≤ format.mostBefore then
    positional d.text before
  else
    format.scientific d.text before

def write (format : NumberFormat) (x : Binary64) : String :=
  if x.isNaN then
    format.nan
  else
    let sign := if x.isNegative then "-" else ""
    if x.isInfinite then sign ++ format.infinity
    else if x.magnitude = 0 then sign ++ "0.0"
    else sign ++ String.ofList (format.decimal x.shortest)

end NumberFormat

/-- Numbers inside values shown as text: positional from 0.0001 up to below 10 ^ 16. -/
def shownNumber : NumberFormat :=
  ⟨-3, 16, 2, "nan", "inf"⟩

end ErdSql
