import Dimmit.Dimmer
import Mathlib.Algebra.Order.Ring.Abs
import Mathlib.Data.Int.ConditionallyCompleteOrder
import Mathlib.Data.Sign.Basic

/-!
# The step of a press

`dimmer_delta_for_fraction` rounds half away from zero and then lifts a step that rounds to
nothing to one unit.  Both are symmetric about zero, so a step down undoes a step up, and both
are monotone, so more of a display, or the same of a greater one, is never a smaller step.
-/

namespace Dimmit

/-! ## Rounding -/

@[simp] theorem lround_intCast (n : Int) : lround n = n := by
  have h (m : Int) : ⌊(m : ℚ) + 1 / 2⌋ = m := by
    rw [Int.floor_intCast_add, show ⌊(1 / 2 : ℚ)⌋ = 0 by decide +kernel, add_zero]
  unfold lround
  split_ifs
  · exact h n
  · rw [← Int.cast_neg, h, neg_neg]

theorem lround_neg (q : ℚ) : lround (-q) = -lround q := by
  rcases lt_trichotomy q 0 with hq | rfl | hq
  · unfold lround
    rw [if_pos (by linarith), if_neg (by linarith), neg_neg]
  · decide +kernel
  · unfold lround
    rw [if_neg (by linarith), if_pos hq.le, neg_neg]

theorem lround_nonneg {q : ℚ} (h : 0 ≤ q) : 0 ≤ lround q := by
  unfold lround
  rw [if_pos h]
  exact Int.floor_nonneg.mpr (by linarith)

theorem lround_nonpos {q : ℚ} (h : q ≤ 0) : lround q ≤ 0 := by
  have hneg := lround_nonneg (neg_nonneg.mpr h)
  rw [lround_neg] at hneg
  exact Int.neg_nonneg.mp hneg

theorem lround_mono {p q : ℚ} (h : p ≤ q) : lround p ≤ lround q := by
  rcases le_or_gt 0 p with hp | hp
  · unfold lround
    rw [if_pos hp, if_pos (hp.trans h)]
    exact Int.floor_mono (by linarith)
  rcases le_or_gt 0 q with hq | hq
  · exact (lround_nonpos hp.le).trans (lround_nonneg hq)
  · unfold lround
    rw [if_neg (not_le.mpr hp), if_neg (not_le.mpr hq)]
    exact Int.neg_le_neg (Int.floor_mono (by linarith))

/-- Rounding does not leave an interval with integral ends. -/
theorem abs_lround_le {q : ℚ} {n : Int} (h : |q| ≤ n) : |lround q| ≤ n := by
  obtain ⟨h₀, h₁⟩ := abs_le.mp h
  have hlow := lround_mono h₀
  have hhigh := lround_mono h₁
  rw [lround_neg, lround_intCast] at hlow
  rw [lround_intCast] at hhigh
  exact abs_le.mpr ⟨hlow, hhigh⟩

theorem abs_lround_mul_le {max : Int} {f : ℚ} (hmax : 0 ≤ max) (hf : |f| ≤ 1) :
    |lround (max * f)| ≤ max := by
  have hmax : (0 : ℚ) ≤ max := by exact_mod_cast hmax
  refine abs_lround_le ?_
  rw [abs_mul, abs_of_nonneg hmax]
  exact mul_le_of_le_one_right hmax hf

/-! ## The step -/

section Step

variable {max max' : Int} {f g : ℚ}

@[simp] theorem dimmerDeltaForFraction_zero (max : Int) : dimmerDeltaForFraction max 0 = 0 := by
  have hround : lround 0 = 0 := by decide +kernel
  simp [dimmerDeltaForFraction, hround]

/-- A step of the opposite fraction is the opposite step. -/
@[simp] theorem dimmerDeltaForFraction_neg (max : Int) (f : ℚ) :
    dimmerDeltaForFraction max (-f) = -dimmerDeltaForFraction max f := by
  have hround : lround (max * -f) = -lround (max * f) := by rw [mul_neg, lround_neg]
  unfold dimmerDeltaForFraction
  simp only [hround, Int.neg_eq_zero, gt_iff_lt, Left.neg_pos_iff, Left.neg_neg_iff]
  split_ifs <;> first | rfl | linarith

/-- A step up is the rounded product, and at least one unit. -/
theorem dimmerDeltaForFraction_of_pos (hmax : 0 ≤ max) (hf : 0 < f) :
    dimmerDeltaForFraction max f = Max.max 1 (lround (max * f)) := by
  have hround : 0 ≤ lround (max * f) := lround_nonneg (mul_nonneg (by exact_mod_cast hmax) hf.le)
  unfold dimmerDeltaForFraction
  rw [if_pos hf]
  change ite _ _ _ = _
  split_ifs <;> omega

theorem dimmerDeltaForFraction_pos (hmax : 0 ≤ max) (hf : 0 < f) :
    0 < dimmerDeltaForFraction max f := by
  rw [dimmerDeltaForFraction_of_pos hmax hf]
  exact lt_max_of_lt_left Int.one_pos

/-- A step has the sign of its fraction. -/
theorem sign_dimmerDeltaForFraction (hmax : 0 ≤ max) (f : ℚ) :
    SignType.sign (dimmerDeltaForFraction max f) = SignType.sign f := by
  rcases lt_trichotomy f 0 with hf | rfl | hf
  · have hpos := dimmerDeltaForFraction_pos hmax (neg_pos.mpr hf)
    rw [dimmerDeltaForFraction_neg] at hpos
    rw [sign_neg hf, sign_neg (neg_pos.mp hpos)]
  · rw [dimmerDeltaForFraction_zero, sign_zero, sign_zero]
  · rw [sign_pos hf, sign_pos (dimmerDeltaForFraction_pos hmax hf)]

/-- A step is no more than the whole display. -/
theorem abs_dimmerDeltaForFraction_le_max (hmax : 1 ≤ max) (hf : |f| ≤ 1) :
    |dimmerDeltaForFraction max f| ≤ max := by
  have hround := abs_lround_mul_le (Int.le_of_lt hmax) hf
  unfold dimmerDeltaForFraction
  dsimp only
  split_ifs
  · exact hmax
  · exact hmax
  · exact Int.le_of_lt hmax
  · exact hround

/-- More of a display is no smaller a step. -/
theorem dimmerDeltaForFraction_mono (hmax : 0 ≤ max) (h : f ≤ g) :
    dimmerDeltaForFraction max f ≤ dimmerDeltaForFraction max g := by
  have hpos {f g : ℚ} (hf : 0 < f) (h : f ≤ g) :
      dimmerDeltaForFraction max f ≤ dimmerDeltaForFraction max g := by
    rw [dimmerDeltaForFraction_of_pos hmax hf, dimmerDeltaForFraction_of_pos hmax (hf.trans_le h)]
    exact max_le_max_left 1
      (lround_mono (mul_le_mul_of_nonneg_left h (by exact_mod_cast hmax)))
  have hnonneg {f : ℚ} (hf : 0 ≤ f) : 0 ≤ dimmerDeltaForFraction max f := by
    rw [← sign_nonneg_iff, sign_dimmerDeltaForFraction hmax, sign_nonneg_iff]
    exact hf
  have hnonpos {f : ℚ} (hf : f ≤ 0) : dimmerDeltaForFraction max f ≤ 0 := by
    rw [← sign_nonpos_iff, sign_dimmerDeltaForFraction hmax, sign_nonpos_iff]
    exact hf
  rcases lt_or_ge 0 f with hf | hf
  · exact hpos hf h
  rcases lt_or_ge g 0 with hg | hg
  · have hneg := hpos (neg_pos.mpr hg) (neg_le_neg h)
    rw [dimmerDeltaForFraction_neg, dimmerDeltaForFraction_neg] at hneg
    exact Int.neg_le_neg_iff.mp hneg
  · exact (hnonpos hf).trans (hnonneg hg)

/-- The same of a greater display is no smaller a step up. -/
theorem dimmerDeltaForFraction_mono_max (hmax : 0 ≤ max) (h : max ≤ max') (hf : 0 < f) :
    dimmerDeltaForFraction max f ≤ dimmerDeltaForFraction max' f := by
  rw [dimmerDeltaForFraction_of_pos hmax hf, dimmerDeltaForFraction_of_pos (hmax.trans h) hf]
  exact max_le_max_left 1
    (lround_mono (mul_le_mul_of_nonneg_right (by exact_mod_cast h) hf.le))

end Step

end Dimmit
