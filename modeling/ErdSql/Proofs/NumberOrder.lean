import ErdSql.Decimal.Binary64
import Mathlib.Data.EReal.Basic
import Mathlib.Order.Monotone.Basic

/-!
# The order of floating-point numbers

The order that `Binary64.le` reads off the bits is that of the numbers themselves: one number is at
most another exactly if its value is, infinities included.  Both zeros have the value zero.
-/

namespace ErdSql
namespace Binary64

/-- The absolute value of the finite number with the given magnitude, counted in the least number
above zero. -/
def quanta (magnitude : Nat) : Nat :=
  if magnitude < powTwo 52 then magnitude
  else (magnitude % powTwo 52 + powTwo 52) * 2 ^ (magnitude / powTwo 52 - 1)

/-- The value of a number, or the infinity that it is. -/
noncomputable def value (x : Binary64) : EReal :=
  if x.isInfinite then if x.isNegative then ⊥ else ⊤
  else ((if x.isNegative then -1 else 1) * (x.significand * 2 ^ x.exponent) : ℝ)

theorem quanta_lt_succ (m : Nat) : quanta m < quanta (m + 1) := by
  have hbound : powTwo 52 = 4503599627370496 := rfl
  unfold quanta
  rw [hbound]
  by_cases hsmall : m + 1 < 4503599627370496
  · rw [if_pos hsmall, if_pos (by omega)]
    exact m.lt_succ_self
  rw [if_neg hsmall]
  by_cases hlast : m < 4503599627370496
  · -- the least number with a full significand
    obtain rfl : m = 4503599627370495 := by omega
    decide
  rw [if_neg hlast]
  by_cases hcarry : (m + 1) % 4503599627370496 = 0
  · -- the significand is full, and the next exponent begins
    have hexponent : (m + 1) / 4503599627370496 - 1 = m / 4503599627370496 - 1 + 1 := by omega
    have hfull : m % 4503599627370496 = 4503599627370495 := by omega
    rw [hcarry, hexponent, hfull, Nat.pow_succ]
    have hpos := Nat.two_pow_pos (m / 4503599627370496 - 1)
    omega
  · have hexponent : (m + 1) / 4503599627370496 = m / 4503599627370496 := by omega
    rw [hexponent]
    exact Nat.mul_lt_mul_of_pos_right (by omega) (Nat.two_pow_pos _)

theorem strictMono_quanta : StrictMono quanta :=
  strictMono_nat_of_lt_succ quanta_lt_succ

/-- The value at a place of the order that is not that of an infinity, counted in the least number
above zero. -/
def signedQuanta (rank : Int) : Int :=
  if rank < 0 then -(quanta rank.natAbs : Int) else quanta rank.natAbs

theorem signedQuanta_lt_signedQuanta {a b : Int} (h : a < b) :
    signedQuanta a < signedQuanta b := by
  have hzero : quanta 0 = 0 := rfl
  unfold signedQuanta
  by_cases hb : b < 0
  · have hlt := strictMono_quanta (show b.natAbs < a.natAbs by omega)
    rw [if_pos (by omega), if_pos hb]
    omega
  · by_cases ha : a < 0
    · have hlt := strictMono_quanta (show 0 < a.natAbs by omega)
      rw [if_pos ha, if_neg hb]
      omega
    · have hlt := strictMono_quanta (show a.natAbs < b.natAbs by omega)
      rw [if_neg ha, if_neg hb]
      omega

theorem significand_mul_two_zpow (x : Binary64) :
    (x.significand * 2 ^ x.exponent : ℝ) = quanta x.magnitude * 2 ^ (-1074 : Int) := by
  have hone : ¬ x.magnitude < powTwo 52 → 1 ≤ x.magnitude / powTwo 52 := fun h =>
    Nat.div_pos (Nat.not_lt.1 h) (Nat.two_pow_pos 52)
  unfold significand exponent quanta
  by_cases hsmall : x.magnitude < powTwo 52
  · simp only [if_pos hsmall]
  · have hplace := hone hsmall
    have hsplit : ((x.magnitude / powTwo 52 : Nat) : Int) - 1075 =
        ((x.magnitude / powTwo 52 - 1 : Nat) : Int) + -1074 := by omega
    simp only [if_neg hsmall]
    rw [hsplit, zpow_add₀ two_ne_zero, zpow_natCast]
    push_cast
    ring

/-- The value at a place of the order. -/
noncomputable def valueAt (rank : Int) : EReal :=
  if rank.natAbs = infinityMagnitude then if rank < 0 then ⊥ else ⊤
  else ((signedQuanta rank * 2 ^ (-1074 : Int) : ℝ) : EReal)

theorem natAbs_rank (x : Binary64) : x.rank.natAbs = x.magnitude := by
  unfold rank
  split <;> simp

theorem isInfinite_iff (x : Binary64) :
    x.isInfinite = true ↔ x.rank.natAbs = infinityMagnitude := by
  rw [isInfinite, beq_iff_eq, natAbs_rank]

/-- The sign is that of the place, unless the number is zero. -/
theorem rank_neg_iff {x : Binary64} (h : x.magnitude ≠ 0) :
    x.rank < 0 ↔ x.isNegative = true := by
  unfold rank
  split
  · rename_i hnegative
    exact iff_of_true (by omega) hnegative
  · rename_i hpositive
    exact iff_of_false (by omega) hpositive

theorem signedQuanta_rank (x : Binary64) :
    signedQuanta x.rank = (if x.isNegative then -1 else 1) * (quanta x.magnitude : Int) := by
  unfold signedQuanta
  rw [natAbs_rank]
  by_cases hzero : x.magnitude = 0
  · have hnone : quanta 0 = 0 := rfl
    simp [hzero, hnone]
  · simp only [rank_neg_iff hzero]
    split <;> simp

theorem value_eq_valueAt (x : Binary64) : x.value = valueAt x.rank := by
  unfold value valueAt
  simp only [isInfinite_iff]
  by_cases hinfinite : x.rank.natAbs = infinityMagnitude
  · have hzero : x.magnitude ≠ 0 := by
      rw [← natAbs_rank, hinfinite]
      decide
    simp only [if_pos hinfinite, rank_neg_iff hzero]
  · rw [if_neg hinfinite, if_neg hinfinite, significand_mul_two_zpow, signedQuanta_rank]
    congr 1
    split <;> push_cast <;> ring

/-- A greater place has a greater value, up to those of the infinities. -/
theorem valueAt_lt_valueAt {a b : Int} (ha : a.natAbs ≤ infinityMagnitude)
    (hb : b.natAbs ≤ infinityMagnitude) (h : a < b) : valueAt a < valueAt b := by
  have hpos : (0 : ℝ) < 2 ^ (-1074 : Int) := zpow_pos two_pos _
  unfold valueAt
  by_cases hlow : a.natAbs = infinityMagnitude
  · have hnegative : a < 0 := by omega
    rw [if_pos hlow, if_pos hnegative]
    by_cases hhigh : b.natAbs = infinityMagnitude
    · rw [if_pos hhigh, if_neg (by omega)]
      exact bot_lt_top
    · rw [if_neg hhigh]
      exact EReal.bot_lt_coe _
  · rw [if_neg hlow]
    by_cases hhigh : b.natAbs = infinityMagnitude
    · rw [if_pos hhigh, if_neg (by omega)]
      exact EReal.coe_lt_top _
    · rw [if_neg hhigh, EReal.coe_lt_coe_iff]
      exact mul_lt_mul_of_pos_right (Int.cast_lt.2 (signedQuanta_lt_signedQuanta h)) hpos

theorem natAbs_rank_le {x : Binary64} (h : x.isNaN = false) :
    x.rank.natAbs ≤ infinityMagnitude := by
  rw [isNaN, decide_eq_false_iff_not, Nat.not_lt] at h
  rwa [natAbs_rank]

/-- Among numbers the order of the bits is that of the values. -/
theorem value_lt_value_iff {x y : Binary64} (hx : x.isNaN = false) (hy : y.isNaN = false) :
    x.value < y.value ↔ x.rank < y.rank := by
  rw [value_eq_valueAt, value_eq_valueAt]
  refine ⟨fun h => ?_, valueAt_lt_valueAt (natAbs_rank_le hx) (natAbs_rank_le hy)⟩
  by_contra hle
  rcases (not_lt.1 hle).lt_or_eq with hlt | heq
  · exact lt_asymm h (valueAt_lt_valueAt (natAbs_rank_le hy) (natAbs_rank_le hx) hlt)
  · exact absurd h (by rw [heq]; exact lt_irrefl _)

theorem le_iff_value_le {x y : Binary64} (hx : x.isNaN = false) (hy : y.isNaN = false) :
    x.le y = true ↔ x.value ≤ y.value := by
  rw [le, decide_eq_true_eq, ← not_lt, ← not_lt, value_lt_value_iff hy hx]

/-- Both zeros have the value zero. -/
example : (ofParts true 0).value = (ofParts false 0).value := by
  rw [value_eq_valueAt, value_eq_valueAt]
  rfl

end Binary64
end ErdSql
