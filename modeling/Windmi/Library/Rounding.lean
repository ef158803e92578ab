import Mathlib.Algebra.Order.Floor.Ring
import Mathlib.Data.Int.Log
import Mathlib.Data.Rat.Floor
import Mathlib.Tactic.Linarith
import Mathlib.Tactic.Positivity
import Mathlib.Tactic.Ring

/-!
# Rounding to a binary format

Rounding to the nearest number with a significand of given precision, ties to
even, as the conversions between floating-point types do.  The range of the
exponent is left out: nothing here overflows or underflows.  Rounding does not
leave an interval whose ends are integers of the format.
-/

namespace Windmi.Library

/-! ## To an integer -/

def roundEven (value : ℚ) : ℤ :=
  if value - ⌊value⌋ < 1 / 2 then ⌊value⌋
  else if 1 / 2 < value - ⌊value⌋ then ⌊value⌋ + 1
  else if ⌊value⌋ % 2 = 0 then ⌊value⌋
  else ⌊value⌋ + 1

theorem roundEven_cases (value : ℚ) :
    roundEven value = ⌊value⌋ ∨
      (roundEven value = ⌊value⌋ + 1 ∧ (⌊value⌋ : ℚ) < value) := by
  have below := Int.floor_le value
  unfold roundEven
  split_ifs with low high even
  · exact Or.inl rfl
  · exact Or.inr ⟨rfl, by linarith⟩
  · exact Or.inl rfl
  · exact Or.inr ⟨rfl, by linarith⟩

theorem le_roundEven {value : ℚ} {bound : ℤ} (above : (bound : ℚ) ≤ value) :
    bound ≤ roundEven value := by
  have floor := Int.le_floor.mpr above
  rcases roundEven_cases value with down | ⟨up, -⟩ <;> omega

theorem roundEven_le {value : ℚ} {bound : ℤ} (below : value ≤ bound) :
    roundEven value ≤ bound := by
  rcases roundEven_cases value with down | ⟨up, strict⟩
  · rw [down]
    exact Int.cast_le.mp ((Int.floor_le value).trans below)
  · rw [up]
    exact Int.cast_lt.mp (strict.trans_le below)

/-- Rounding is off by a half at most. -/
theorem abs_roundEven_sub_le (value : ℚ) :
    |(roundEven value : ℚ) - value| ≤ 1 / 2 := by
  have below := Int.floor_le value
  have above := Int.lt_floor_add_one value
  rw [abs_le]
  unfold roundEven
  split_ifs with low high even
  · constructor <;> linarith
  · push_cast
    constructor <;> linarith
  · constructor <;> linarith
  · push_cast
    constructor <;> linarith

/-- The integer that is nearer than a half is the rounded value. -/
theorem roundEven_eq_of_near {value : ℚ} {nearest : ℤ}
    (near : |value - nearest| < 1 / 2) : roundEven value = nearest := by
  have rounded := abs_roundEven_sub_le value
  have close : |(roundEven value : ℚ) - nearest| < 1 := by
    calc |(roundEven value : ℚ) - nearest|
        = |((roundEven value : ℚ) - value) + (value - nearest)| := by
          rw [sub_add_sub_cancel]
      _ ≤ |(roundEven value : ℚ) - value| + |value - nearest| :=
          abs_add_le _ _
      _ < 1 := by linarith
  have same : |roundEven value - nearest| < 1 := by
    exact_mod_cast close
  exact sub_eq_zero.mp (Int.abs_lt_one_iff.mp same)

@[simp]
theorem roundEven_intCast (value : ℤ) : roundEven value = value := by
  apply roundEven_eq_of_near
  rw [sub_self, abs_zero]
  exact one_half_pos

/-- Half-way cases go to an even integer. -/
theorem roundEven_eq_of_even {value : ℚ} {nearest : ℤ}
    (even : nearest % 2 = 0) (near : |value - nearest| ≤ 1 / 2) :
    roundEven value = nearest := by
  rcases near.lt_or_eq with close | half
  · exact roundEven_eq_of_near close
  rcases (abs_eq one_half_pos.le).mp half with above | below
  · have floor : ⌊value⌋ = nearest := by
      rw [Int.floor_eq_iff]
      constructor <;> linarith
    rw [roundEven, floor, above]
    simp [even]
  · have floor : ⌊value⌋ = nearest - 1 := by
      rw [Int.floor_eq_iff]
      push_cast
      constructor <;> linarith
    have fraction : value - (nearest - 1 : ℤ) = 1 / 2 := by
      push_cast
      linarith
    have odd : ¬ (nearest - 1) % 2 = 0 := by omega
    rw [roundEven, floor, fraction]
    simp [odd]

/-- A value half-way between two integers is rounded to the even one. -/
theorem roundEven_even {value : ℚ}
    (half : |value - roundEven value| = 1 / 2) : roundEven value % 2 = 0 := by
  by_contra odd
  rcases (abs_eq one_half_pos.le).mp half with above | below
  · have other := @roundEven_eq_of_even value (roundEven value + 1) (by omega)
      (by push_cast; rw [abs_le]; constructor <;> linarith)
    omega
  · have other := @roundEven_eq_of_even value (roundEven value - 1) (by omega)
      (by push_cast; rw [abs_le]; constructor <;> linarith)
    omega

theorem roundEven_neg (value : ℚ) :
    roundEven (-value) = -roundEven value := by
  have same : |-value - (-roundEven value : ℤ)| =
      |value - roundEven value| := by
    push_cast
    rw [neg_sub_neg, abs_sub_comm]
  have near : |value - roundEven value| ≤ 1 / 2 := by
    rw [abs_sub_comm]
    exact abs_roundEven_sub_le value
  rcases near.lt_or_eq with close | half
  · exact roundEven_eq_of_near (same.trans_lt close)
  · have even := roundEven_even half
    exact roundEven_eq_of_even (by omega) (same.trans_le near)

theorem roundEven_mono {value other : ℚ} (le : value ≤ other) :
    roundEven value ≤ roundEven other := by
  rcases (Int.floor_le_floor le).lt_or_eq with below | same
  · have lower := le_roundEven (Int.floor_le other)
    rcases roundEven_cases value with down | ⟨up, -⟩ <;> omega
  · unfold roundEven
    rw [same]
    split_ifs <;> first | omega | (exfalso; linarith)

/-! ## To a significand of given precision -/

/-- The distance of neighbouring numbers of the format around a value. -/
def ulp (precision : ℕ) (value : ℚ) : ℚ :=
  2 ^ (Int.log 2 |value| + 1 - precision)

def roundTo (precision : ℕ) (value : ℚ) : ℚ :=
  if value = 0 then 0
  else roundEven (value / ulp precision value) * ulp precision value

theorem ulp_pos (precision : ℕ) (value : ℚ) : 0 < ulp precision value :=
  zpow_pos two_pos _

/-- Rounding is off by half the distance at most. -/
theorem abs_roundTo_sub_le (precision : ℕ) (value : ℚ) :
    |roundTo precision value - value| ≤ ulp precision value / 2 := by
  have unit := ulp_pos precision value
  unfold roundTo
  split
  case isTrue zero =>
    rw [zero, sub_zero, abs_zero]
    exact (half_pos (ulp_pos precision 0)).le
  case isFalse =>
    have rounded := abs_roundEven_sub_le (value / ulp precision value)
    calc |roundEven (value / ulp precision value) * ulp precision value -
          value|
        = |roundEven (value / ulp precision value) -
            value / ulp precision value| * ulp precision value := by
          rw [← abs_of_pos unit, ← abs_mul, abs_of_pos unit, sub_mul,
            div_mul_cancel₀ value unit.ne']
      _ ≤ 1 / 2 * ulp precision value :=
          mul_le_mul_of_nonneg_right rounded unit.le
      _ = ulp precision value / 2 := by ring

/-- The multiple of the distance that is nearer than half of it. -/
theorem roundTo_eq_of_near {precision : ℕ} {value : ℚ} {multiple : ℤ}
    (near : |value - multiple * ulp precision value| <
      ulp precision value / 2) :
    roundTo precision value = multiple * ulp precision value := by
  have unit := ulp_pos precision value
  have scaled : |value / ulp precision value - multiple| < 1 / 2 := by
    have split : value - multiple * ulp precision value =
        (value / ulp precision value - multiple) * ulp precision value := by
      rw [sub_mul, div_mul_cancel₀ value unit.ne']
    rw [split, abs_mul, abs_of_pos unit] at near
    apply lt_of_mul_lt_mul_right _ unit.le
    linarith
  unfold roundTo
  split
  case isTrue zero =>
    rw [zero, zero_div, zero_sub, abs_neg] at scaled
    have small : |multiple| < 1 := by
      have weaker : |(multiple : ℚ)| < 1 := by linarith
      exact_mod_cast weaker
    rw [Int.abs_lt_one_iff.mp small, Int.cast_zero, zero_mul]
  case isFalse => rw [roundEven_eq_of_near scaled]

/-- Below `2 ^ precision` every integer is a multiple of the distance. -/
theorem exists_mul_ulp {precision : ℕ} {value : ℚ} (nonzero : value ≠ 0)
    (small : |value| < 2 ^ precision) (bound : ℤ) :
    ∃ multiple : ℤ, (bound : ℚ) = multiple * ulp precision value := by
  have positive := abs_pos.mpr nonzero
  have exponent : Int.log 2 |value| + 1 - precision ≤ 0 := by
    have below : Int.log 2 |value| < (precision : ℤ) := by
      rw [← Int.lt_zpow_iff_log_lt one_lt_two positive]
      exact_mod_cast small
    omega
  rcases Int.eq_ofNat_of_zero_le (neg_nonneg.mpr exponent) with
    ⟨shift, equal⟩
  refine ⟨bound * 2 ^ shift, ?_⟩
  rw [ulp, ← neg_neg (Int.log 2 |value| + 1 - precision), equal, zpow_neg]
  push_cast
  rw [zpow_natCast, mul_assoc, mul_inv_cancel₀ (by positivity), mul_one]

/-- Rounding keeps an integer lower bound. -/
theorem le_roundTo {precision : ℕ} {value : ℚ}
    (small : |value| < 2 ^ precision) {bound : ℤ}
    (above : (bound : ℚ) ≤ value) : (bound : ℚ) ≤ roundTo precision value := by
  unfold roundTo
  split
  case isTrue zero => rwa [zero] at above
  case isFalse nonzero =>
    have unit := ulp_pos precision value
    rcases exists_mul_ulp nonzero small bound with ⟨multiple, equal⟩
    rw [equal] at above ⊢
    have scaled : (multiple : ℚ) ≤ value / ulp precision value :=
      (le_div_iff₀ unit).mpr above
    exact mul_le_mul_of_nonneg_right
      (Int.cast_le.mpr (le_roundEven scaled)) unit.le

/-- Rounding keeps an integer upper bound. -/
theorem roundTo_le {precision : ℕ} {value : ℚ}
    (small : |value| < 2 ^ precision) {bound : ℤ}
    (below : value ≤ (bound : ℚ)) : roundTo precision value ≤ bound := by
  unfold roundTo
  split
  case isTrue zero => rwa [zero] at below
  case isFalse nonzero =>
    have unit := ulp_pos precision value
    rcases exists_mul_ulp nonzero small bound with ⟨multiple, equal⟩
    rw [equal] at below ⊢
    have scaled : value / ulp precision value ≤ multiple :=
      (div_le_iff₀ unit).mpr below
    exact mul_le_mul_of_nonneg_right
      (Int.cast_le.mpr (roundEven_le scaled)) unit.le

/-! ## Numbers of the format -/

/-- A full significand in units of the last place. -/
theorem two_pow_mul_ulp (precision : ℕ) (value : ℚ) :
    2 ^ precision * ulp (precision + 1) value = 2 ^ Int.log 2 |value| := by
  unfold ulp
  rw [← zpow_natCast, ← zpow_add₀ two_ne_zero]
  congr 1
  push_cast
  ring

theorem two_pow_mul_ulp_le (precision : ℕ) {value : ℚ} (nonzero : value ≠ 0) :
    2 ^ precision * ulp (precision + 1) value ≤ |value| := by
  rw [two_pow_mul_ulp]
  exact Int.zpow_log_le_self one_lt_two (abs_pos.mpr nonzero)

theorem abs_lt_two_pow_mul_ulp (precision : ℕ) (value : ℚ) :
    |value| < 2 ^ (precision + 1) * ulp (precision + 1) value := by
  have most := Int.lt_zpow_succ_log_self (R := ℚ) one_lt_two |value|
  rw [pow_succ, mul_right_comm, two_pow_mul_ulp]
  rw [Nat.cast_two, zpow_add_one₀ two_ne_zero] at most
  exact most

/-- The multiple which rounding takes fills the significand. -/
theorem exists_significand (precision : ℕ) {value : ℚ}
    (nonzero : value ≠ 0) : ∃ multiple : ℤ,
      roundTo (precision + 1) value =
          multiple * ulp (precision + 1) value ∧
        2 ^ precision ≤ |multiple| ∧ |multiple| ≤ 2 ^ (precision + 1) := by
  have unit := ulp_pos (precision + 1) value
  have lower := two_pow_mul_ulp_le precision nonzero
  have upper := (abs_lt_two_pow_mul_ulp precision value).le
  refine ⟨roundEven (value / ulp (precision + 1) value), if_neg nonzero, ?_⟩
  have scale : |value / ulp (precision + 1) value| =
      |value| / ulp (precision + 1) value := by
    rw [abs_div, abs_of_pos unit]
  rw [← le_div_iff₀ unit, ← scale] at lower
  rw [← div_le_iff₀ unit, ← scale] at upper
  generalize value / ulp (precision + 1) value = scaled at lower upper
  rcases abs_cases scaled with ⟨same, -⟩ | ⟨same, -⟩
  · rw [same] at lower upper
    have below : 2 ^ precision ≤ roundEven scaled :=
      le_roundEven (by exact_mod_cast lower)
    have above : roundEven scaled ≤ 2 ^ (precision + 1) :=
      roundEven_le (by exact_mod_cast upper)
    have nonneg : 0 ≤ roundEven scaled := le_trans (by positivity) below
    rw [abs_of_nonneg nonneg]
    exact ⟨below, above⟩
  · rw [same] at lower upper
    have below : roundEven scaled ≤ -2 ^ precision :=
      roundEven_le (by push_cast; linarith)
    have above : -2 ^ (precision + 1) ≤ roundEven scaled :=
      le_roundEven (by push_cast; linarith)
    have power : (0 : ℤ) < 2 ^ precision := by positivity
    rw [abs_of_neg (by linarith)]
    constructor
    · linarith
    · linarith

/-- Where a value has a number of the format next to it that is no power of
two, the unit of the last place is that of the number. -/
theorem ulp_eq_of_near {precision : ℕ} {value : ℚ} {multiple exponent : ℤ}
    (lower : 2 ^ precision < |multiple|)
    (upper : |multiple| < 2 ^ (precision + 1))
    (near : |value - multiple * 2 ^ exponent| < 2 ^ exponent / 2) :
    ulp (precision + 1) value = 2 ^ exponent := by
  have unit : (0 : ℚ) < 2 ^ exponent := zpow_pos two_pos _
  have size : |(multiple : ℚ) * 2 ^ exponent| = |multiple| * 2 ^ exponent := by
    rw [abs_mul, abs_of_pos unit, Int.cast_abs]
  have close := abs_le.mp (abs_abs_sub_abs_le value (multiple * 2 ^ exponent))
  rw [size] at close
  have least : (2 : ℚ) ^ precision + 1 ≤ (|multiple| : ℤ) := by
    exact_mod_cast lower
  have most : ((|multiple| : ℤ) : ℚ) + 1 ≤ 2 ^ (precision + 1) := by
    exact_mod_cast upper
  have leastScaled := mul_le_mul_of_nonneg_right least unit.le
  have mostScaled := mul_le_mul_of_nonneg_right most unit.le
  rw [add_mul] at leastScaled mostScaled
  have below : (2 : ℚ) ^ (exponent + precision) ≤ |value| := by
    rw [zpow_add₀ two_ne_zero, zpow_natCast, mul_comm]
    linarith
  have above : |value| < (2 : ℚ) ^ (exponent + precision + 1) := by
    rw [add_assoc, zpow_add₀ two_ne_zero, ← Nat.cast_add_one, zpow_natCast,
      mul_comm]
    linarith
  have positive : 0 < |value| :=
    lt_of_lt_of_le (zpow_pos two_pos _) below
  have log : Int.log 2 |value| = exponent + precision := by
    apply le_antisymm
    · rw [← Int.lt_add_one_iff, ← Int.lt_zpow_iff_log_lt one_lt_two positive]
      exact_mod_cast above
    · rw [← Int.zpow_le_iff_le_log one_lt_two positive]
      exact_mod_cast below
  rw [ulp, log]
  congr 1
  push_cast
  ring

/-- Rounding finds a number of the format that is near and no power of two. -/
theorem roundTo_eq_of_between {precision : ℕ} {value : ℚ}
    {multiple exponent : ℤ} (lower : 2 ^ precision < |multiple|)
    (upper : |multiple| < 2 ^ (precision + 1))
    (near : |value - multiple * 2 ^ exponent| < 2 ^ exponent / 2) :
    roundTo (precision + 1) value = multiple * 2 ^ exponent := by
  have unit := ulp_eq_of_near lower upper near
  rw [← unit] at near ⊢
  exact roundTo_eq_of_near near

/-- A number of the format is left alone. -/
theorem roundTo_of_format {precision : ℕ} {multiple exponent : ℤ}
    (fits : |multiple| ≤ 2 ^ precision) :
    roundTo (precision + 1) (multiple * 2 ^ exponent) =
      multiple * 2 ^ exponent := by
  rcases eq_or_ne multiple 0 with rfl | nonzero
  · simp [roundTo]
  have unit : (0 : ℚ) < 2 ^ exponent := zpow_pos two_pos _
  let value : ℚ := multiple * 2 ^ exponent
  have size : |value| = |multiple| * 2 ^ exponent := by
    rw [abs_mul, abs_of_pos unit, Int.cast_abs]
  have bound : ((|multiple| : ℤ) : ℚ) ≤ 2 ^ precision := by
    exact_mod_cast fits
  have positive : 0 < |value| :=
    abs_pos.mpr (mul_ne_zero (Int.cast_ne_zero.mpr nonzero) unit.ne')
  have most : |value| ≤ 2 ^ (exponent + precision) := by
    rw [size, zpow_add₀ two_ne_zero, zpow_natCast, mul_comm]
    exact mul_le_mul_of_nonneg_left bound unit.le
  have log : Int.log 2 |value| ≤ exponent + precision := by
    have power := @Int.log_zpow ℚ _ _ _ _ 2 one_lt_two (exponent + precision)
    rw [← power]
    exact Int.log_mono_right positive (by exact_mod_cast most)
  rcases Int.eq_ofNat_of_zero_le (sub_nonneg.mpr log) with ⟨shift, equal⟩
  have whole : value =
      (multiple * 2 ^ shift : ℤ) * ulp (precision + 1) value := by
    have same : exponent =
        shift + (Int.log 2 |value| + 1 - (precision + 1 : ℕ)) := by
      push_cast
      omega
    show (multiple : ℚ) * 2 ^ exponent = _
    unfold ulp
    nth_rewrite 1 [same]
    rw [zpow_add₀ two_ne_zero, zpow_natCast]
    push_cast
    ring
  show roundTo (precision + 1) value = value
  nth_rewrite 2 [whole]
  apply roundTo_eq_of_near
  rw [← whole, sub_self, abs_zero]
  exact half_pos (ulp_pos _ _)

/-- A significand that is a power of two goes into the exponent. -/
theorem mul_zpow_of_power {multiple exponent : ℤ} {shift : ℕ}
    (power : |multiple| = 2 ^ shift) :
    (multiple : ℚ) * 2 ^ exponent =
      multiple.sign * 2 ^ (shift + exponent) ∧ |multiple.sign| = 1 := by
  constructor
  · rw [zpow_add₀ two_ne_zero, zpow_natCast, ← mul_assoc]
    congr 1
    have split := Int.sign_mul_abs multiple
    rw [power] at split
    exact_mod_cast split.symm
  · apply Int.abs_sign_of_ne_zero
    rintro rfl
    rw [abs_zero] at power
    exact (pow_pos (by norm_num) shift).ne power

theorem roundTo_idem (precision : ℕ) (value : ℚ) :
    roundTo (precision + 1) (roundTo (precision + 1) value) =
      roundTo (precision + 1) value := by
  rcases eq_or_ne value 0 with rfl | nonzero
  · simp [roundTo]
  have power {multiple exponent : ℤ} {shift : ℕ}
      (power : |multiple| = 2 ^ shift) :
      roundTo (precision + 1) (multiple * 2 ^ exponent) =
        multiple * 2 ^ exponent := by
    rcases @mul_zpow_of_power multiple exponent shift power with ⟨same, unit⟩
    rw [same]
    exact roundTo_of_format (unit.trans_le (one_le_pow₀ one_le_two))
  rcases exists_significand precision nonzero with
    ⟨multiple, rounded, lower, upper⟩
  rw [rounded]
  unfold ulp
  rcases lower.lt_or_eq with above | least
  · rcases upper.lt_or_eq with below | most
    · apply roundTo_eq_of_between above below
      rw [sub_self, abs_zero]
      exact half_pos (zpow_pos two_pos _)
    · exact power most
  · exact power least.symm

/-! ## Order -/

@[simp]
theorem ulp_neg (precision : ℕ) (value : ℚ) :
    ulp precision (-value) = ulp precision value := by
  rw [ulp, abs_neg, ulp]

@[simp]
theorem roundTo_neg (precision : ℕ) (value : ℚ) :
    roundTo precision (-value) = -roundTo precision value := by
  unfold roundTo
  split_ifs with zero negated negated
  · exact neg_zero.symm
  · exact absurd (neg_eq_zero.mp zero) negated
  · exact absurd (neg_eq_zero.mpr negated) zero
  · rw [ulp_neg, neg_div, roundEven_neg]
    push_cast
    exact neg_mul _ _

theorem roundTo_nonneg (precision : ℕ) {value : ℚ} (nonneg : 0 ≤ value) :
    0 ≤ roundTo precision value := by
  have unit := ulp_pos precision value
  unfold roundTo
  split
  · exact le_rfl
  · have whole : (0 : ℤ) ≤ roundEven (value / ulp precision value) :=
      le_roundEven (by push_cast; positivity)
    exact mul_nonneg (Int.cast_nonneg whole) unit.le

/-- Rounding stays between the powers of two around a positive value. -/
theorem two_zpow_log_le_roundTo (precision : ℕ) {value : ℚ}
    (positive : 0 < value) :
    2 ^ Int.log 2 value ≤ roundTo (precision + 1) value := by
  have unit := ulp_pos (precision + 1) value
  have lower := two_pow_mul_ulp_le precision positive.ne'
  have power := two_pow_mul_ulp precision value
  rw [abs_of_pos positive] at lower power
  have scaled : 2 ^ precision ≤ roundEven (value / ulp (precision + 1) value) := by
    apply le_roundEven
    rw [le_div_iff₀ unit]
    exact_mod_cast lower
  rw [← power, roundTo, if_neg positive.ne']
  exact mul_le_mul_of_nonneg_right (by exact_mod_cast scaled) unit.le

theorem roundTo_le_two_zpow_log (precision : ℕ) {value : ℚ}
    (positive : 0 < value) :
    roundTo (precision + 1) value ≤ 2 ^ (Int.log 2 value + 1) := by
  have unit := ulp_pos (precision + 1) value
  have upper := (abs_lt_two_pow_mul_ulp precision value).le
  have power := two_pow_mul_ulp precision value
  rw [abs_of_pos positive] at upper power
  have scaled : roundEven (value / ulp (precision + 1) value) ≤
      2 ^ (precision + 1) := by
    apply roundEven_le
    rw [div_le_iff₀ unit]
    exact_mod_cast upper
  rw [zpow_add_one₀ two_ne_zero, ← power, roundTo, if_neg positive.ne',
    mul_right_comm, ← pow_succ]
  exact mul_le_mul_of_nonneg_right (by exact_mod_cast scaled) unit.le

theorem roundTo_mono_of_pos (precision : ℕ) {value other : ℚ}
    (positive : 0 < value) (le : value ≤ other) :
    roundTo (precision + 1) value ≤ roundTo (precision + 1) other := by
  have above : 0 < other := positive.trans_le le
  rcases (Int.log_mono_right (b := 2) positive le).lt_or_eq with below | same
  · calc roundTo (precision + 1) value
        ≤ 2 ^ (Int.log 2 value + 1) :=
          roundTo_le_two_zpow_log precision positive
      _ ≤ 2 ^ Int.log 2 other := zpow_le_zpow_right₀ one_le_two below
      _ ≤ roundTo (precision + 1) other :=
          two_zpow_log_le_roundTo precision above
  · have units : ulp (precision + 1) value = ulp (precision + 1) other := by
      rw [ulp, ulp, abs_of_pos positive, abs_of_pos above, same]
    have unit := ulp_pos (precision + 1) other
    rw [roundTo, roundTo, if_neg positive.ne', if_neg above.ne', units]
    have scaled := roundEven_mono (div_le_div_of_nonneg_right le unit.le)
    exact mul_le_mul_of_nonneg_right (Int.cast_le.mpr scaled) unit.le

/-- Rounding to nearest never changes the order of two values. -/
theorem roundTo_mono (precision : ℕ) {value other : ℚ} (le : value ≤ other) :
    roundTo (precision + 1) value ≤ roundTo (precision + 1) other := by
  rcases lt_or_ge 0 value with positive | nonpos
  · exact roundTo_mono_of_pos precision positive le
  rcases lt_or_ge other 0 with negative | nonneg
  · have mirrored := roundTo_mono_of_pos precision (neg_pos.mpr negative)
      (neg_le_neg le)
    rw [roundTo_neg, roundTo_neg] at mirrored
    exact neg_le_neg_iff.mp mirrored
  · have below := roundTo_nonneg (precision + 1) (neg_nonneg.mpr nonpos)
    rw [roundTo_neg] at below
    exact (neg_nonneg.mp below).trans (roundTo_nonneg _ nonneg)

theorem roundTo_two_zpow (precision : ℕ) (exponent : ℤ) :
    roundTo (precision + 1) (2 ^ exponent) = 2 ^ exponent := by
  have power := @roundTo_of_format precision 1 exponent
    (by rw [abs_one]; exact one_le_pow₀ one_le_two)
  simpa only [Int.cast_one, one_mul] using power

theorem roundTo_abs (precision : ℕ) (value : ℚ) :
    roundTo precision |value| = |roundTo precision value| := by
  rcases le_total 0 value with nonneg | nonpos
  · rw [abs_of_nonneg nonneg, abs_of_nonneg (roundTo_nonneg _ nonneg)]
  · have below := roundTo_nonneg precision (neg_nonneg.mpr nonpos)
    rw [roundTo_neg] at below
    rw [abs_of_nonpos nonpos, abs_of_nonpos (neg_nonneg.mp below),
      roundTo_neg]

/-- Powers of two are bounds for what is rounded, as they are for the value. -/
theorem abs_roundTo_le (precision : ℕ) {value : ℚ} {exponent : ℤ}
    (below : |value| ≤ 2 ^ exponent) :
    |roundTo (precision + 1) value| ≤ 2 ^ exponent := by
  have rounded := roundTo_mono precision below
  rwa [roundTo_abs, roundTo_two_zpow] at rounded

theorem le_abs_roundTo (precision : ℕ) {value : ℚ} {exponent : ℤ}
    (above : 2 ^ exponent ≤ |value|) :
    2 ^ exponent ≤ |roundTo (precision + 1) value| := by
  have rounded := roundTo_mono precision above
  rwa [roundTo_abs, roundTo_two_zpow] at rounded

/-- A multiple of the distance, with the even one half-way between two. -/
theorem roundTo_eq_of_even {precision : ℕ} {value : ℚ} {multiple : ℤ}
    (nonzero : value ≠ 0) (even : multiple % 2 = 0)
    (near : |value - multiple * ulp precision value| ≤
      ulp precision value / 2) :
    roundTo precision value = multiple * ulp precision value := by
  have unit := ulp_pos precision value
  have scaled : |value / ulp precision value - multiple| ≤ 1 / 2 := by
    have split : value - multiple * ulp precision value =
        (value / ulp precision value - multiple) * ulp precision value := by
      rw [sub_mul, div_mul_cancel₀ value unit.ne']
    rw [split, abs_mul, abs_of_pos unit] at near
    apply le_of_mul_le_mul_right _ unit
    linarith
  rw [roundTo, if_neg nonzero, roundEven_eq_of_even even scaled]

/-- Where the binary logarithm of a positive value is, by its bounds. -/
theorem log_mem {value : ℚ} {lower upper : ℤ} (above : 2 ^ lower ≤ value)
    (below : value < 2 ^ upper) :
    lower ≤ Int.log 2 value ∧ Int.log 2 value < upper := by
  have positive : 0 < value := (zpow_pos two_pos lower).trans_le above
  constructor
  · rw [← Int.zpow_le_iff_le_log one_lt_two positive]
    exact_mod_cast above
  · rw [← Int.lt_zpow_iff_log_lt one_lt_two positive]
    exact_mod_cast below

/-- The error of rounding a value below a power of two. -/
theorem abs_roundTo_sub_le_of_lt (precision : ℕ) {value : ℚ} {exponent : ℤ}
    (below : |value| < 2 ^ exponent) :
    |roundTo precision value - value| ≤ 2 ^ (exponent - precision) / 2 := by
  rcases eq_or_ne value 0 with rfl | nonzero
  · rw [roundTo, if_pos rfl, sub_zero, abs_zero]
    exact (half_pos (zpow_pos two_pos _)).le
  · have log : Int.log 2 |value| < exponent := by
      rw [← Int.lt_zpow_iff_log_lt one_lt_two (abs_pos.mpr nonzero)]
      exact_mod_cast below
    have unit : ulp precision value ≤ 2 ^ (exponent - precision) :=
      zpow_le_zpow_right₀ one_le_two (by omega)
    exact (abs_roundTo_sub_le precision value).trans
      (div_le_div_of_nonneg_right unit two_pos.le)

end Windmi.Library
