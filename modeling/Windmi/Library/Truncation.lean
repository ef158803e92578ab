import Mathlib.Data.Rat.Floor
import Mathlib.Algebra.Order.Floor.Ring
import Mathlib.Order.Interval.Set.UnorderedInterval
import Mathlib.Tactic.Linarith

/-!
# Truncation of rationals toward zero

The conversion that a cast from a real number to an integer type performs in
C-like languages: the fractional part is dropped, so the result is the floor
of a nonnegative value and the ceiling of a nonpositive one.
-/

namespace Windmi.Library

/-- The integer part of a rational, toward zero. -/
def truncate (value : ℚ) : Int :=
  value.num.tdiv value.den

theorem truncate_of_nonneg {value : ℚ} (nonneg : 0 ≤ value) :
    truncate value = ⌊value⌋ := by
  have numerator : 0 ≤ value.num := Rat.num_nonneg.mpr nonneg
  rw [truncate, Int.tdiv_eq_ediv_of_nonneg numerator, Rat.floor_def']

@[simp]
theorem truncate_neg (value : ℚ) :
    truncate (-value) = -truncate value := by
  simp [truncate, Int.neg_tdiv]

theorem truncate_of_nonpos {value : ℚ} (nonpos : value ≤ 0) :
    truncate value = ⌈value⌉ := by
  have opposite : truncate (-value) = ⌊-value⌋ :=
    truncate_of_nonneg (neg_nonneg.mpr nonpos)
  rw [truncate_neg, Int.floor_neg] at opposite
  exact neg_injective opposite

/-- An integer is its own integer part. -/
@[simp]
theorem truncate_intCast (value : Int) :
    truncate (value : ℚ) = value := by
  simp [truncate]

/-- Truncation loses less than one unit. -/
theorem abs_truncate_sub_lt_one (value : ℚ) :
    |(truncate value : ℚ) - value| < 1 := by
  rw [abs_lt]
  rcases le_total 0 value with nonneg | nonpos
  · rw [truncate_of_nonneg nonneg]
    have below := Int.floor_le value
    have above := Int.lt_floor_add_one value
    constructor <;> linarith
  · rw [truncate_of_nonpos nonpos]
    have above := Int.le_ceil value
    have below := Int.ceil_lt_add_one value
    constructor <;> linarith

/-- Truncation does not leave an interval with integer ends. -/
theorem truncate_mem_Icc {value : ℚ} {lower upper : Int}
    (lowerLe : (lower : ℚ) ≤ value) (leUpper : value ≤ (upper : ℚ)) :
    lower ≤ truncate value ∧ truncate value ≤ upper := by
  rcases le_total 0 value with nonneg | nonpos
  · rw [truncate_of_nonneg nonneg]
    exact ⟨Int.le_floor.mpr lowerLe,
      Int.cast_le.mp ((Int.floor_le value).trans leUpper)⟩
  · rw [truncate_of_nonpos nonpos]
    exact ⟨Int.cast_le.mp (lowerLe.trans (Int.le_ceil value)),
      Int.ceil_le.mpr leUpper⟩

theorem truncate_le_iff {value : ℚ} (nonneg : 0 ≤ value) {bound : Int} :
    truncate value ≤ bound ↔ value < bound + 1 := by
  rw [truncate_of_nonneg nonneg, ← Int.lt_add_one_iff, Int.floor_lt]
  push_cast
  rfl

/--
The integer part of a multiple of a distance does not pass its end exactly when
the multiple exceeds the distance by less than one.
-/
theorem truncate_mul_mem_uIcc_iff {factor : ℚ} (nonneg : 0 ≤ factor)
    (distance : Int) :
    truncate (factor * distance) ∈ Set.uIcc 0 distance ↔
      factor * |(distance : ℚ)| < |(distance : ℚ)| + 1 := by
  have forward : ∀ distance : Int, 0 ≤ distance →
      (truncate (factor * distance) ∈ Set.uIcc 0 distance ↔
        factor * distance < (distance : ℚ) + 1) := by
    intro distance ahead
    have moved : 0 ≤ factor * distance :=
      mul_nonneg nonneg (Int.cast_nonneg ahead)
    have begun : 0 ≤ truncate (factor * distance) := by
      rw [truncate_of_nonneg moved]
      exact Int.floor_nonneg.mpr moved
    rw [Set.uIcc_of_le ahead, Set.mem_Icc, and_iff_right begun]
    exact truncate_le_iff moved
  rcases le_total 0 distance with ahead | behind
  · rw [abs_of_nonneg (Int.cast_nonneg ahead)]
    exact forward distance ahead
  · have opposite := forward (-distance) (by omega)
    have magnitude : |(distance : ℚ)| = ((-distance : Int) : ℚ) := by
      rw [abs_of_nonpos (Int.cast_nonpos.mpr behind), Int.cast_neg]
    rw [magnitude, ← opposite, Int.cast_neg, mul_neg, truncate_neg,
      Set.mem_uIcc, Set.mem_uIcc]
    omega

end Windmi.Library
