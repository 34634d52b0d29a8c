import Mathlib.Algebra.Order.Round
import Mathlib.Tactic.FieldSimp
import Mathlib.Tactic.Linarith

set_option autoImplicit false

/-! # Rounding to a grid

Rounding to the nearest integer, with any rule for what is halfway between two of them, and rounding
to the nearest multiple of `1 / scale`. That a rounding is monotone (`NearestInt.mono`) does not
depend on the rule. -/

/-- A way to round to the nearest integer. -/
structure NearestInt (K : Type) [Field K] [LinearOrder K] where
  toInt : K → ℤ
  abs_sub_le : ∀ x, |x - toInt x| ≤ 1 / 2

namespace NearestInt

variable {K : Type} [Field K] [LinearOrder K] [IsStrictOrderedRing K] (r : NearestInt K)

/-- **Rounding is monotone.** If two results were in the wrong order, the arguments would lie on the
    wrong sides of what is between them. -/
theorem mono {x y : K} (h : x ≤ y) : r.toInt x ≤ r.toInt y := by
  by_contra hlt
  have hgap : (r.toInt y : K) + 1 ≤ r.toInt x := by exact_mod_cast not_le.1 hlt
  have hx := (abs_le.1 (r.abs_sub_le x)).1
  have hy := (abs_le.1 (r.abs_sub_le y)).2
  have hxy : x = y := le_antisymm h (by linarith)
  exact hlt (by rw [hxy])

/-- An integer is rounded to itself. -/
theorem toInt_intCast (n : ℤ) : r.toInt (n : K) = n := by
  have habs := r.abs_sub_le (n : K)
  have hlt : |((n - r.toInt n : ℤ) : K)| < 1 := by
    push_cast
    exact lt_of_le_of_lt habs one_half_lt_one
  have hlt' : |n - r.toInt n| < 1 := by exact_mod_cast hlt
  have hzero := Int.abs_lt_one_iff.1 hlt'
  omega

/-- The multiple of `1 / scale` that is nearest to `x`. -/
def onGrid (scale x : K) : K := r.toInt (x * scale) / scale

variable {scale : K}

theorem onGrid_mono (hscale : 0 < scale) {x y : K} (h : x ≤ y) :
    r.onGrid scale x ≤ r.onGrid scale y := by
  unfold onGrid
  have hround := r.mono (mul_le_mul_of_nonneg_right h hscale.le)
  exact div_le_div_of_nonneg_right (by exact_mod_cast hround) hscale.le

/-- Arguments whose images are in strict order are so themselves. -/
theorem lt_of_onGrid_lt (hscale : 0 < scale) {x y : K}
    (h : r.onGrid scale x < r.onGrid scale y) : x < y := by
  by_contra hle
  exact absurd h (not_lt.2 (r.onGrid_mono hscale (not_lt.1 hle)))

/-- What is on the grid stays where it is. -/
theorem onGrid_intCast_div (hscale : 0 < scale) (n : ℤ) :
    r.onGrid scale (n / scale) = n / scale := by
  unfold onGrid
  rw [div_mul_cancel₀ _ hscale.ne', toInt_intCast]

end NearestInt

/-- Rounding to the nearest integer, away from zero halfway between two. -/
def nearestAway (K : Type) [Field K] [LinearOrder K] [IsStrictOrderedRing K] [FloorRing K] :
    NearestInt K where
  toInt x := if 0 ≤ x then ⌊x + 1 / 2⌋ else -⌊-x + 1 / 2⌋
  abs_sub_le x := by
    split
    · rw [← round_eq]
      exact abs_sub_round x
    · rw [← round_eq]
      have h := abs_sub_round (-x)
      push_cast
      rwa [sub_neg_eq_add, ← abs_neg, neg_add, ← sub_eq_add_neg]
