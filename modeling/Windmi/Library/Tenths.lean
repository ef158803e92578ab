import Mathlib.Tactic.FieldSimp
import Windmi.Library.Rounding

/-!
# Tenths in a binary format

A tenth of an integer is seldom a number of the format.  Yet the quotient by
ten and its product by ten, each rounded to nearest, give a small integer back:
the integer is even in units of the last place of its quotient, which therefore
lies two fifths of a unit from a number of the format at most.
-/

namespace Windmi.Library

/--
A tenth of an integer, in units of the last place: the multiple that rounding
takes is off by two fifths at most, as the integer is even in those units.
-/
theorem abs_ten_mul_roundEven_sub_le (half : ℤ) :
    |10 * roundEven ((2 * half : ℤ) / 10 : ℚ) - 2 * half| ≤ 4 := by
  have rounded := abs_roundEven_sub_le ((2 * half : ℤ) / 10 : ℚ)
  rw [abs_le] at rounded ⊢
  generalize roundEven ((2 * half : ℤ) / 10 : ℚ) = whole at rounded ⊢
  push_cast at rounded
  have lower : (-5 : ℚ) ≤ 10 * whole - 2 * half := by linarith [rounded.1]
  have upper : (10 * whole - 2 * half : ℚ) ≤ 5 := by linarith [rounded.2]
  have lower' : -5 ≤ 10 * whole - 2 * half := by exact_mod_cast lower
  have upper' : 10 * whole - 2 * half ≤ 5 := by exact_mod_cast upper
  omega

/-- A positive integer and a tenth of it, in units of the last place. -/
structure TenthUnits (precision : ℕ) (integer exponent multiple : ℤ) :
    Prop where
  least : (2 : ℚ) ^ exponent ≤ integer / 10
  most : (integer : ℚ) / 10 < 2 ^ (exponent + 1)
  some : 1 ≤ precision
  sixteen : (integer : ℚ) = multiple * (16 * 2 ^ (exponent - precision))

theorem exists_tenthUnits {precision : ℕ} {integer : ℤ}
    (positive : 0 < integer) (small : integer < 2 ^ precision) :
    ∃ exponent multiple, TenthUnits precision integer exponent multiple := by
  have tenthPos : (0 : ℚ) < integer / 10 := by
    have : (0 : ℚ) < integer := by exact_mod_cast positive
    exact div_pos this (by norm_num)
  have least := Int.zpow_log_le_self one_lt_two tenthPos
  have most := Int.lt_zpow_succ_log_self one_lt_two ((integer : ℚ) / 10)
  rw [Nat.cast_two] at least most
  generalize Int.log 2 ((integer : ℚ) / 10) = exponent at least most
  have some : 1 ≤ precision := by
    by_contra none
    have zero : precision = 0 := by omega
    rw [zero, pow_zero] at small
    omega
  -- the integer is below the power of two, so its tenth is far below
  have room : exponent + 4 ≤ precision := by
    have bound : (integer : ℚ) < 2 ^ precision := by exact_mod_cast small
    have power : (0 : ℚ) < 2 ^ exponent := zpow_pos two_pos _
    have below : (2 : ℚ) ^ (exponent + 3) < 2 ^ (precision : ℤ) := by
      rw [zpow_add₀ two_ne_zero, zpow_natCast]
      norm_num
      linarith
    have := (zpow_lt_zpow_iff_right₀ one_lt_two).mp below
    omega
  rcases Int.eq_ofNat_of_zero_le (sub_nonneg.mpr room) with ⟨shift, equal⟩
  refine ⟨exponent, integer * 2 ^ shift, least, most, some, ?_⟩
  have split : exponent - precision = -(shift : ℤ) - 4 := by omega
  rw [split, zpow_sub₀ two_ne_zero, zpow_neg, zpow_natCast]
  push_cast
  field_simp

section

variable {precision : ℕ} {integer exponent multiple : ℤ}

theorem TenthUnits.tenth_pos
    (units : TenthUnits precision integer exponent multiple) :
    (0 : ℚ) < integer / 10 :=
  (zpow_pos two_pos _).trans_le units.least

theorem TenthUnits.ulp_eq
    (units : TenthUnits precision integer exponent multiple) :
    ulp (precision + 1) (integer / 10) = 2 ^ (exponent - precision) := by
  rcases log_mem units.least units.most with ⟨above, below⟩
  have log : Int.log 2 ((integer : ℚ) / 10) = exponent := by omega
  rw [ulp, abs_of_pos units.tenth_pos, log]
  congr 1
  push_cast
  ring

/-- Ten times the rounded tenth is off by four units at most. -/
theorem TenthUnits.near
    (units : TenthUnits precision integer exponent multiple) :
    |roundTo (precision + 1) ((integer : ℚ) / 10) * 10 - integer| ≤
      4 * 2 ^ (exponent - precision) := by
  have unitPos : (0 : ℚ) < 2 ^ (exponent - precision) := zpow_pos two_pos _
  have whole : (integer : ℚ) / 10 * 10 = integer :=
    div_mul_cancel₀ _ (by norm_num)
  have scaled : (integer : ℚ) / 10 / 2 ^ (exponent - precision) =
      (2 * (8 * multiple) : ℤ) / 10 := by
    rw [div_eq_div_iff unitPos.ne' (by norm_num), whole, units.sixteen]
    push_cast
    ring
  have close := abs_ten_mul_roundEven_sub_le (8 * multiple)
  rw [← scaled] at close
  have error :
      roundTo (precision + 1) ((integer : ℚ) / 10) * 10 - integer =
        (10 * roundEven ((integer : ℚ) / 10 / 2 ^ (exponent - precision)) -
          2 * (8 * multiple) : ℤ) * 2 ^ (exponent - precision) := by
    rw [roundTo, if_neg units.tenth_pos.ne', units.ulp_eq]
    generalize roundEven _ = rounded
    rw [units.sixteen]
    push_cast
    ring
  rw [error, abs_mul, abs_of_pos unitPos]
  exact mul_le_mul_of_nonneg_right (by exact_mod_cast close) unitPos.le

/-- A value that is so near is rounded to the integer. -/
theorem TenthUnits.roundTo_eq
    (units : TenthUnits precision integer exponent multiple) {product : ℚ}
    (near : |product - integer| ≤ 4 * 2 ^ (exponent - precision)) :
    roundTo (precision + 1) product = integer := by
  have sixteen := units.sixteen
  have whole : (integer : ℚ) = integer / 10 * 10 := by ring
  have unitSmall : 2 * (2 : ℚ) ^ (exponent - precision) ≤ 2 ^ exponent := by
    have some := units.some
    rw [← zpow_one_add₀ two_ne_zero]
    exact zpow_le_zpow_right₀ one_le_two (by omega)
  have bounds := abs_le.mp near
  have lower : (2 : ℚ) ^ (exponent + 3) ≤ product := by
    have least := units.least
    rw [zpow_add₀ two_ne_zero]
    norm_num
    linarith [bounds.1]
  have upper : product < 2 ^ (exponent + 5) := by
    have most := units.most
    rw [zpow_add_one₀ two_ne_zero] at most
    rw [zpow_add₀ two_ne_zero]
    norm_num
    linarith [bounds.2]
  have positive : 0 < product := (zpow_pos two_pos _).trans_le lower
  rcases log_mem lower upper with ⟨above, below⟩
  have unit (binade : ℤ) (log : Int.log 2 product = exponent + binade) :
      ulp (precision + 1) product =
        2 ^ binade * 2 ^ (exponent - precision) := by
    rw [ulp, abs_of_pos positive, log, ← zpow_add₀ two_ne_zero]
    congr 1
    push_cast
    ring
  have unitPos : (0 : ℚ) < 2 ^ (exponent - precision) := zpow_pos two_pos _
  have binade : Int.log 2 product = exponent + 3 ∨
      Int.log 2 product = exponent + 4 := by omega
  rcases binade with low | high
  · -- half-way cases go to the integer, which is even in these units
    have same : (integer : ℚ) =
        (2 * multiple : ℤ) * ulp (precision + 1) product := by
      rw [unit 3 low, sixteen]
      push_cast
      ring
    rw [same]
    apply roundTo_eq_of_even positive.ne' (by omega)
    rw [← same, unit 3 low]
    norm_num
    linarith
  · have same : (integer : ℚ) = multiple * ulp (precision + 1) product := by
      rw [unit 4 high, sixteen]
      ring
    rw [same]
    apply roundTo_eq_of_near
    rw [← same, unit 4 high]
    norm_num
    linarith

end

/--
Dividing a small integer by ten and multiplying the quotient by ten again,
each with its rounding, gives the integer back.
-/
theorem roundTo_mul_ten {precision : ℕ} {integer : ℤ}
    (small : |integer| < 2 ^ precision) :
    roundTo (precision + 1)
      (roundTo (precision + 1) ((integer : ℚ) / 10) * 10) = integer := by
  have positive {integer : ℤ} (positive : 0 < integer)
      (small : integer < 2 ^ precision) :
      roundTo (precision + 1)
        (roundTo (precision + 1) ((integer : ℚ) / 10) * 10) = integer := by
    rcases exists_tenthUnits positive small with ⟨_, _, units⟩
    exact units.roundTo_eq units.near
  rcases lt_trichotomy integer 0 with negative | rfl | above
  · rw [abs_of_neg negative] at small
    have mirrored := positive (neg_pos.mpr negative) small
    rw [Int.cast_neg, neg_div, roundTo_neg, neg_mul, roundTo_neg] at mirrored
    exact neg_inj.mp mirrored
  · simp [roundTo]
  · rw [abs_of_pos above] at small
    exact positive above small

end Windmi.Library
