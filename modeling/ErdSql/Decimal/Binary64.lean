/-!
# Binary floating-point numbers

The numbers of the 64-bit binary format, kept as their bit patterns so that every statement
about them is one about natural numbers.  The module gives the parts of a number, its order,
and the nearest such number to a rational one, with ties to the even neighbour.
-/

namespace ErdSql

/-- A number of the 64-bit binary format, or an infinity, or one of the values that are no
number. -/
structure Binary64 where
  bits : UInt64
deriving DecidableEq, Repr

namespace Binary64

def powTwo (n : Nat) : Nat :=
  Nat.pow 2 n

def powTen (n : Nat) : Nat :=
  Nat.pow 10 n

/-- The bits without the sign. -/
def magnitude (x : Binary64) : Nat :=
  x.bits.toNat % powTwo 63

def isNegative (x : Binary64) : Bool :=
  powTwo 63 ≤ x.bits.toNat

def infinityMagnitude : Nat :=
  0x7FF * powTwo 52

def isNaN (x : Binary64) : Bool :=
  infinityMagnitude < x.magnitude

def isInfinite (x : Binary64) : Bool :=
  x.magnitude == infinityMagnitude

def isFinite (x : Binary64) : Bool :=
  x.magnitude < infinityMagnitude

/-- The number with the given sign and magnitude. -/
def ofParts (negative : Bool) (magnitude : Nat) : Binary64 :=
  ⟨UInt64.ofNat (magnitude + if negative then powTwo 63 else 0)⟩

def zero : Binary64 := ofParts false 0

def one : Binary64 := ofParts false (1023 * powTwo 52)

def infinity (negative : Bool) : Binary64 :=
  ofParts negative infinityMagnitude

def nan (negative : Bool) : Binary64 :=
  ofParts negative (infinityMagnitude + powTwo 51)

/-- The place of a number in the order; the two zeros have the same place.  The values that are
no number have a place too, which means nothing. -/
def rank (x : Binary64) : Int :=
  if x.isNegative then -(x.magnitude : Int) else x.magnitude

/-- Whether the first number is at most the second, among numbers. -/
def le (x y : Binary64) : Bool :=
  x.rank ≤ y.rank

/-- The integer factor of a finite number's absolute value. -/
def significand (x : Binary64) : Nat :=
  if x.magnitude < powTwo 52 then x.magnitude else x.magnitude % powTwo 52 + powTwo 52

/-- The exponent of the power of two in a finite number's absolute value. -/
def exponent (x : Binary64) : Int :=
  if x.magnitude < powTwo 52 then -1074 else (x.magnitude / powTwo 52 : Nat) - 1075

/-- The quotient rounded to the nearest integer, a tie to the even one. -/
def roundDiv (num den : Nat) : Nat :=
  let q := num / den
  let r := num % den
  if 2 * r < den then q
  else if den < 2 * r then q + 1
  else q + q % 2

/-- The power of two of the last place of the number nearest to `num / den`. -/
def placeOf (num den : Nat) : Int :=
  let guess : Int := (Nat.log2 num : Int) - (Nat.log2 den : Int) - 53
  let atGuess :=
    if 0 ≤ guess then num / (den * powTwo guess.toNat) else num * powTwo (-guess).toNat / den
  max (-1074) (if atGuess < powTwo 53 then guess else guess + 1)

/-- The number nearest to `num / den`, for positive integers. -/
def ofRatio (negative : Bool) (num den : Nat) : Binary64 :=
  let place := placeOf num den
  let m :=
    if 0 ≤ place then roundDiv num (den * powTwo place.toNat)
    else roundDiv (num * powTwo (-place).toNat) den
  ofParts negative (min infinityMagnitude ((place + 1074).toNat * powTwo 52 + m))

/-- The number nearest to `digits · 10 ^ exponent`.  Exponents far outside the range are
settled without forming the power. -/
def ofDecimal (negative : Bool) (digits : Nat) (exponent : Int) : Binary64 :=
  let scale := (Nat.log2 digits / 3 : Int) + exponent
  if digits = 0 then ofParts negative 0
  else if 1000 < exponent then infinity negative
  else if scale < -1000 then ofParts negative 0
  else if 0 ≤ exponent then ofRatio negative (digits * powTen exponent.toNat) 1
  else ofRatio negative digits (powTen (-exponent).toNat)

def ofInt (n : Int) : Binary64 :=
  if n = 0 then zero else ofRatio (decide (n < 0)) n.natAbs 1

/-- The integer part of a finite number, toward zero. -/
def truncate (x : Binary64) : Int :=
  let m :=
    if 0 ≤ x.exponent then x.significand * powTwo x.exponent.toNat
    else x.significand / powTwo (-x.exponent).toNat
  if x.isNegative then -(m : Int) else m

def isIntegral (x : Binary64) : Bool :=
  0 ≤ x.exponent || x.significand % powTwo (-x.exponent).toNat == 0

end Binary64
end ErdSql
