import Windmi.Core.Registers
import Windmi.Library.Tenths
import Windmi.Library.Truncation
import Mathlib.Tactic.NormNum

/-!
# Conversions between temperatures and register words

`raw_to_temp` and `temp_to_raw` of `src/core/ControlLoop.cpp`.  A register
counts tenths of a degree.  Temperatures are kept exactly and stand for the
`float` next to them; where the rounding of an operation shows it is rounded.
Going to the register truncates toward zero, so a temperature read back lies
less than a tenth of a degree from the one written, as long as the value fits
the signed 16-bit range.
-/

namespace Windmi.Core

open Windmi.Library

/-- The `float` that stands for a temperature; `static_cast<float>`. -/
def toFloat (value : ℚ) : ℚ :=
  roundTo 24 value

/-- `raw_to_temp`, of which the source has the rounded quotient. -/
def rawToTemp (raw : Word) : ℚ :=
  (raw.toInt : ℚ) / 10

/-- `temp * 10.0f` -/
def floatTenths (temp : ℚ) : ℚ :=
  toFloat (toFloat temp * 10)

/-- `temp_to_raw`: ten times the temperature, cast to `int16_t`. -/
def tempToRaw (temp : ℚ) : Word :=
  BitVec.ofInt 16 (truncate (floatTenths temp))

/-- `fabsf(first - second) > 0.5f` -/
def Apart (first second : ℚ) : Prop :=
  |toFloat (toFloat first - toFloat second)| > 1 / 2

instance (first second : ℚ) : Decidable (Apart first second) :=
  inferInstanceAs (Decidable (_ > _))

/-- The tenths of the temperature fit the signed 16-bit range. -/
structure Representable (temp : ℚ) : Prop where
  lower : -32768 ≤ temp * 10
  upper : temp * 10 ≤ 32767

/-! ## Rounding -/

theorem toFloat_mono {first second : ℚ} (le : first ≤ second) :
    toFloat first ≤ toFloat second :=
  roundTo_mono 23 le

/-- An integer survives the way through its tenth. -/
theorem floatTenths_div_ten {integer : ℤ} (small : |integer| < 2 ^ 23) :
    floatTenths (integer / 10) = integer :=
  roundTo_mul_ten small

theorem floatTenths_mono {first second : ℚ} (le : first ≤ second) :
    floatTenths first ≤ floatTenths second :=
  toFloat_mono (mul_le_mul_of_nonneg_right (toFloat_mono le) (by norm_num))

theorem le_floatTenths {temp : ℚ} {bound : ℤ} (small : |bound| < 2 ^ 23)
    (above : (bound : ℚ) ≤ temp * 10) : (bound : ℚ) ≤ floatTenths temp := by
  have tenth : (bound : ℚ) / 10 ≤ temp := by linarith
  have rounded := floatTenths_mono tenth
  rwa [floatTenths_div_ten small] at rounded

theorem floatTenths_le {temp : ℚ} {bound : ℤ} (small : |bound| < 2 ^ 23)
    (below : temp * 10 ≤ bound) : floatTenths temp ≤ bound := by
  have tenth : temp ≤ (bound : ℚ) / 10 := by linarith
  have rounded := floatTenths_mono tenth
  rwa [floatTenths_div_ten small] at rounded

theorem rawToTemp_tenths_small (raw : Word) : |raw.toInt| < 2 ^ 23 := by
  have lower := BitVec.le_toInt raw
  have upper : raw.toInt < 2 ^ 15 := BitVec.toInt_lt
  rw [abs_lt]
  omega

/-! ## Words and temperatures -/

/-- What a register holds survives the way through a temperature. -/
@[simp]
theorem tempToRaw_rawToTemp (raw : Word) :
    tempToRaw (rawToTemp raw) = raw := by
  rw [tempToRaw, rawToTemp, floatTenths_div_ten (rawToTemp_tenths_small raw),
    truncate_intCast, BitVec.ofInt_toInt]

theorem representable_rawToTemp (raw : Word) :
    Representable (rawToTemp raw) := by
  have tenths : rawToTemp raw * 10 = (raw.toInt : ℚ) := by
    rw [rawToTemp]
    ring
  have lower : (-32768 : Int) ≤ raw.toInt := by
    have := BitVec.le_toInt raw
    omega
  have upper : raw.toInt ≤ (32767 : Int) := by
    have bound : raw.toInt < 2 ^ 15 := BitVec.toInt_lt
    omega
  constructor
  · rw [tenths]
    exact_mod_cast lower
  · rw [tenths]
    exact_mod_cast upper

/-- The register value of a representable temperature is its truncation. -/
theorem toInt_tempToRaw {temp : ℚ} (fits : Representable temp) :
    (tempToRaw temp).toInt = truncate (floatTenths temp) := by
  have lower := @le_floatTenths temp (-32768) (by norm_num)
    (by exact_mod_cast fits.lower)
  have upper := @floatTenths_le temp 32767 (by norm_num)
    (by exact_mod_cast fits.upper)
  have range := truncate_mem_Icc lower upper
  rw [tempToRaw, BitVec.toInt_ofInt]
  exact Int.bmod_eq_of_le (by omega) (by omega)

/-- Rounding passes no integer, so the word is one of the two next to it. -/
theorem toInt_tempToRaw_between {temp : ℚ} {lower upper : ℤ}
    (above : (lower : ℚ) ≤ temp * 10) (below : temp * 10 ≤ upper)
    (low : -32768 ≤ lower) (high : upper ≤ 32768) (fits : Representable temp) :
    lower ≤ (tempToRaw temp).toInt ∧ (tempToRaw temp).toInt ≤ upper := by
  have between : lower ≤ upper := by exact_mod_cast above.trans below
  rw [toInt_tempToRaw fits]
  exact truncate_mem_Icc
    (le_floatTenths (by rw [abs_lt]; omega) above)
    (floatTenths_le (by rw [abs_lt]; omega) below)

/-- Writing and reading back a temperature moves it by less than a tenth. -/
theorem abs_rawToTemp_tempToRaw_sub_lt
    {temp : ℚ} (fits : Representable temp) :
    |rawToTemp (tempToRaw temp) - temp| < 1 / 10 := by
  have floor := Int.floor_le (temp * 10)
  have ceil := Int.lt_floor_add_one (temp * 10)
  have floorLow : -32768 ≤ ⌊temp * 10⌋ :=
    Int.le_floor.mpr (by exact_mod_cast fits.lower)
  have floorHigh : ⌊temp * 10⌋ ≤ 32767 := by
    have bound := floor.trans fits.upper
    exact_mod_cast bound
  unfold rawToTemp
  rcases floor.lt_or_eq with strict | exact
  · have range := @toInt_tempToRaw_between temp _ (⌊temp * 10⌋ + 1) floor
      (by push_cast; exact ceil.le) floorLow (by omega) fits
    have lower : (⌊temp * 10⌋ : ℚ) ≤ (tempToRaw temp).toInt :=
      Int.cast_le.mpr range.1
    have upper : ((tempToRaw temp).toInt : ℚ) ≤ ⌊temp * 10⌋ + 1 := by
      exact_mod_cast range.2
    rw [abs_lt]
    constructor <;> linarith
  · have range := toInt_tempToRaw_between floor exact.ge floorLow
      (by omega) fits
    have same : (tempToRaw temp).toInt = ⌊temp * 10⌋ :=
      le_antisymm range.2 range.1
    rw [same, abs_lt]
    constructor <;> linarith

/-! ## The tolerance of the loop -/

/-- In the range of a register a float is off by an eighth of a thousandth. -/
theorem abs_toFloat_sub_le {temp : ℚ} (fits : Representable temp) :
    |toFloat temp - temp| ≤ 1 / 8192 := by
  have small : |temp| < 2 ^ (12 : ℤ) := by
    have lower := fits.lower
    have upper := fits.upper
    rw [abs_lt]
    norm_num
    constructor <;> linarith
  exact (abs_roundTo_sub_le_of_lt 24 small).trans_eq (by norm_num)

/-- The difference of two floats, against that of the temperatures. -/
theorem abs_float_sub_sub_le {first second : ℚ} (fits : Representable first)
    (fits' : Representable second) :
    |toFloat first - toFloat second - (first - second)| ≤ 1 / 4096 := by
  have near := abs_le.mp (abs_toFloat_sub_le fits)
  have near' := abs_le.mp (abs_toFloat_sub_le fits')
  rw [abs_le]
  constructor <;> linarith

theorem toFloat_neg (value : ℚ) : toFloat (-value) = -toFloat value :=
  roundTo_neg 24 value

/-- Temperatures that are close are not told apart. -/
theorem not_apart_of_close {first second : ℚ} (fits : Representable first)
    (fits' : Representable second) (close : |first - second| ≤ 49 / 100) :
    ¬ Apart first second := by
  have near := abs_le.mp (abs_float_sub_sub_le fits fits')
  have bounds := abs_le.mp close
  have half : toFloat (1 / 2) = 1 / 2 := by decide +kernel
  have lower := @toFloat_mono (-(1 / 2)) (toFloat first - toFloat second)
    (by linarith)
  have upper := @toFloat_mono (toFloat first - toFloat second) (1 / 2)
    (by linarith)
  rw [toFloat_neg, half] at lower
  rw [half] at upper
  exact not_lt.mpr (abs_le.mpr ⟨lower, upper⟩)

/-- Temperatures that are far from each other are told apart. -/
theorem apart_of_far {first second : ℚ} (fits : Representable first)
    (fits' : Representable second) (far : 501 / 1000 ≤ |first - second|) :
    Apart first second := by
  have near := abs_le.mp (abs_float_sub_sub_le fits fits')
  have more : toFloat (1025 / 2048) = 1025 / 2048 := by decide +kernel
  unfold Apart
  rcases le_abs'.mp far with below | above
  · have upper := @toFloat_mono (toFloat first - toFloat second) (-(1025 / 2048))
      (by linarith)
    rw [toFloat_neg, more] at upper
    rw [gt_iff_lt, lt_abs]
    right
    linarith
  · have lower := @toFloat_mono (1025 / 2048) (toFloat first - toFloat second)
      (by linarith)
    rw [more] at lower
    rw [gt_iff_lt, lt_abs]
    left
    linarith

-- Half a degree itself can go either way.
example : Apart (319 / 10) (324 / 10) ∧ ¬ Apart (452 / 10) (457 / 10) := by
  decide +kernel

theorem not_apart_self (temp : ℚ) : ¬ Apart temp temp := by
  rw [Apart, sub_self, toFloat, roundTo, if_pos rfl, abs_zero]
  exact not_lt.mpr one_half_pos.le

/-- What is written for a temperature is not told apart from it. -/
theorem not_apart_tempToRaw {temp : ℚ} (fits : Representable temp) :
    ¬ Apart (rawToTemp (tempToRaw temp)) temp := by
  have close := abs_rawToTemp_tempToRaw_sub_lt fits
  exact not_apart_of_close (representable_rawToTemp _) fits (by linarith)

/-- A number of tenths. -/
def IsTenth (temp : ℚ) : Prop :=
  ∃ tenths : ℤ, temp = tenths / 10

/-- Tenths that are not told apart lie within half a degree. -/
theorem abs_sub_le_of_not_apart {first second : ℚ}
    (fits : Representable first) (fits' : Representable second)
    (tenth : IsTenth first) (tenth' : IsTenth second)
    (same : ¬ Apart first second) : |first - second| ≤ 1 / 2 := by
  rcases tenth with ⟨tenths, rfl⟩
  rcases tenth' with ⟨tenths', rfl⟩
  have near : |(tenths : ℚ) / 10 - tenths' / 10| < 501 / 1000 :=
    not_le.mp fun far => same (apart_of_far fits fits' far)
  have scale : |(tenths : ℚ) / 10 - tenths' / 10| =
      (|tenths - tenths'| : ℤ) / 10 := by
    rw [← sub_div, abs_div]
    push_cast
    norm_num
  rw [scale] at near ⊢
  have fewer : |tenths - tenths'| < 6 := by
    have bound : ((|tenths - tenths'| : ℤ) : ℚ) < 6 := by linarith
    exact_mod_cast bound
  have most : ((|tenths - tenths'| : ℤ) : ℚ) ≤ 5 := by
    exact_mod_cast Int.le_of_lt_add_one fewer
  linarith

theorem isTenth_rawToTemp (raw : Word) : IsTenth (rawToTemp raw) :=
  ⟨raw.toInt, rfl⟩

/-- Against half degrees, as in the guards of the minimum targets, rounding
decides nothing. -/
theorem lt_toFloat_rawToTemp_iff (raw : Word) {halves : ℤ}
    (small : |halves| ≤ 2 ^ 23) :
    (halves / 2 : ℚ) < toFloat (rawToTemp raw) ↔
      (halves / 2 : ℚ) < rawToTemp raw := by
  have near := abs_le.mp (abs_toFloat_sub_le (representable_rawToTemp raw))
  have half : toFloat (halves / 2) = halves / 2 := by
    have format := @roundTo_of_format 23 halves (-1) small
    rwa [zpow_neg_one, ← div_eq_mul_inv] at format
  constructor
  · intro above
    by_contra below
    have rounded := toFloat_mono (not_lt.mp below)
    rw [half] at rounded
    exact absurd above (not_lt.mpr rounded)
  · intro above
    have fifths : halves * 5 < raw.toInt := by
      have scaled : ((halves * 5 : ℤ) : ℚ) < raw.toInt := by
        push_cast
        unfold rawToTemp at above
        linarith
      exact_mod_cast scaled
    have next : ((halves * 5 + 1 : ℤ) : ℚ) ≤ raw.toInt := by
      exact_mod_cast fifths
    push_cast at next
    have tenth : (halves / 2 : ℚ) + 1 / 10 ≤ rawToTemp raw := by
      unfold rawToTemp
      linarith
    linarith

end Windmi.Core
