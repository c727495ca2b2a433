import ErdSql.Decimal.Binary64

/-!
# Shortest decimal

The decimal with the fewest digits among those that are nearer to a given finite number than to
any other, and of these the one nearest to it.  The number's neighbours halfway bound the
interval of such decimals; its ends belong to it when the number's significand is even.
-/

namespace ErdSql
namespace Binary64

/-- A positive decimal, `digits · 10 ^ exponent`. -/
structure Decimal where
  digits : Nat
  exponent : Int
deriving DecidableEq, Repr

/-- Four times a positive finite number and the bounds of its interval, as integers over a
common denominator. -/
structure Interval where
  low : Nat
  value : Nat
  high : Nat
  den : Nat
  closed : Bool

/-- The decimals that read back as the number lie in this interval. -/
def interval (x : Binary64) : Interval :=
  let m := x.significand
  let below := if m = powTwo 52 ∧ x.exponent ≠ -1074 then 1 else 2
  let place := x.exponent - 2
  let scale := if 0 ≤ place then powTwo place.toNat else 1
  let den := if 0 ≤ place then 1 else powTwo (-place).toNat
  ⟨(4 * m - below) * scale, 4 * m * scale, (4 * m + 2) * scale, den, m % 2 == 0⟩

/-- Whether `d · num / den` lies in the interval. -/
def Interval.has (i : Interval) (d num den : Nat) : Bool :=
  let at_ := d * num * i.den
  if i.closed then
    i.low * den ≤ at_ && at_ ≤ i.high * den
  else
    i.low * den < at_ && at_ < i.high * den

/-- The decimal on the grid of multiples of `10 ^ exponent` that lies in the interval and is
nearest to its value, if there is one; of two equally near ones the even one. -/
def Interval.onGrid? (i : Interval) (exponent : Int) : Option Decimal :=
  let num := if 0 ≤ exponent then powTen exponent.toNat else 1
  let den := if 0 ≤ exponent then 1 else powTen (-exponent).toNat
  let below := i.value * den / (num * i.den)
  let low := 0 < below && i.has below num den
  let high := i.has (below + 1) num den
  let twice := 2 * (i.value * den)
  let middle := (2 * below + 1) * (num * i.den)
  let nearer := twice < middle || (twice == middle && below % 2 == 0)
  if low && (nearer || !high) then some ⟨below, exponent⟩
  else if high then some ⟨below + 1, exponent⟩
  else none

/-- The number of digits before the point of a positive rational number; zero or less for one
below one tenth. -/
def digitsBeforePoint (num den : Nat) : Int :=
  let guess : Int := ((Nat.log2 num : Int) - (Nat.log2 den : Int) - 1) * 30103 / 100000
  let reaches (p : Int) : Bool :=
    if 0 ≤ p then den * powTen p.toNat ≤ num else den ≤ num * powTen (-p).toNat
  let up (p : Int) : Int := if reaches p then p + 1 else p
  up (up (up guess))

/-- The first hit on the grids with one, two, and up to `count` digits. -/
def Interval.firstHit? (i : Interval) (before : Int) : Nat → Nat → Option Decimal
  | _, 0 => none
  | used, count + 1 =>
      match i.onGrid? (before - (used + 1 : Nat)) with
      | some d => some d
      | none => i.firstHit? before (used + 1) count

/-- The same decimal without a zero at its end; there is one after a step up to a power of
ten. -/
def Decimal.dropZero (d : Decimal) : Decimal :=
  if d.digits % 10 = 0 then ⟨d.digits / 10, d.exponent + 1⟩ else d

/-- The shortest decimal of a positive finite number; seventeen digits always suffice. -/
def shortest (x : Binary64) : Decimal :=
  let i := x.interval
  ((i.firstHit? (digitsBeforePoint i.value i.den) 0 17).getD ⟨0, 0⟩).dropZero

def Decimal.text (d : Decimal) : List Char :=
  (toString d.digits).toList

end Binary64
end ErdSql
