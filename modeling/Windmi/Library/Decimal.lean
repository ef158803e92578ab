import Mathlib.Tactic.FieldSimp
import Mathlib.Tactic.Ring
import Windmi.Library.Rounding

/-!
# Decimal texts

Integers, and numbers with a fixed count of decimals, as the formats `%d` and
`%.nf` write them: the exact value is rounded to the nearest multiple of the
last place, ties to even.  A reader finds the digits before and after the point
again, and so the rounded value.
-/

namespace Windmi.Library.Decimal

/-! ## Digits -/

/-- The number that a whole and a fractional part write. -/
def unsigned (whole fraction : List Char) : ℚ :=
  (Nat.ofDigitChars 10 (whole ++ fraction) 0 : ℚ) / 10 ^ fraction.length

/-- The last digits of a number, as many as asked for. -/
def padded (places count : ℕ) : List Char :=
  List.replicate (places - (Nat.toDigits 10 count).length) '0' ++
    Nat.toDigits 10 count

theorem isDigit_of_mem_toDigits {count : ℕ} {char : Char}
    (member : char ∈ Nat.toDigits 10 count) : char.isDigit = true :=
  Nat.isDigit_of_mem_toDigits (by decide) (by decide) member

theorem toDigits_eq_cons (count : ℕ) :
    ∃ first rest, Nat.toDigits 10 count = first :: rest ∧
      first.isDigit = true := by
  cases digits : Nat.toDigits 10 count with
  | nil => exact absurd digits Nat.toDigits_ne_nil
  | cons first rest =>
      refine ⟨first, rest, rfl, @isDigit_of_mem_toDigits count first ?_⟩
      rw [digits]
      exact List.mem_cons_self

theorem isDigit_of_mem_padded {places count : ℕ} {char : Char}
    (member : char ∈ padded places count) : char.isDigit = true := by
  rcases List.mem_append.mp member with zero | digit
  · rw [(List.mem_replicate.mp zero).2]
    rfl
  · exact isDigit_of_mem_toDigits digit

theorem length_padded {places count : ℕ} (positive : 0 < places)
    (small : count < 10 ^ places) : (padded places count).length = places := by
  have short : (Nat.toDigits 10 count).length ≤ places :=
    (Nat.length_toDigits_le_iff (by decide) positive).mpr small
  rw [padded, List.length_append, List.length_replicate]
  exact Nat.sub_add_cancel short

theorem ofDigitChars_padded (places count init : ℕ) (positive : 0 < places)
    (small : count < 10 ^ places) :
    Nat.ofDigitChars 10 (padded places count) init =
      10 ^ places * init + count := by
  rw [Nat.ofDigitChars_eq_ofDigitChars_zero, length_padded positive small,
    padded, Nat.ofDigitChars_append, Nat.ofDigitChars_replicate_zero,
    Nat.mul_zero, Nat.ofDigitChars_ten_toDigits]

/-- Digits up to something that is none. -/
theorem span_isDigit {digits rest : List Char}
    (all : ∀ char ∈ digits, char.isDigit = true)
    (stop : ∀ char ∈ rest.head?, char.isDigit = false) :
    (digits ++ rest).span Char.isDigit = (digits, rest) := by
  rw [List.span_eq_takeWhile_dropWhile,
    List.takeWhile_append_of_pos all, List.dropWhile_append_of_pos all]
  cases rest with
  | nil => simp
  | cons char rest =>
      have none : ¬ char.isDigit = true := by
        rw [stop char rfl]
        exact Bool.false_ne_true
      rw [List.takeWhile_cons_of_neg none, List.dropWhile_cons_of_neg none,
        List.append_nil]

/-! ## Numbers with a fixed count of decimals -/

/-- How many units of the last place are written. -/
def units (places : ℕ) (value : ℚ) : ℕ :=
  (roundEven (|value| * 10 ^ places)).natAbs

def sign (value : ℚ) : List Char :=
  if value < 0 then ['-'] else []

def whole (places : ℕ) (value : ℚ) : List Char :=
  Nat.toDigits 10 (units places value / 10 ^ places)

def fraction (places : ℕ) (value : ℚ) : List Char :=
  padded places (units places value % 10 ^ places)

/-- `%.nf`, of any number of places but zero. -/
def fixed (places : ℕ) (value : ℚ) : List Char :=
  sign value ++ whole places value ++ '.' :: fraction places value

/-- What is written, as a number. -/
def fixedValue (places : ℕ) (value : ℚ) : ℚ :=
  (if value < 0 then -1 else 1) * (units places value / 10 ^ places)

/-- `%d`. -/
def integer (value : ℤ) : List Char :=
  (if value < 0 then ['-'] else []) ++ Nat.toDigits 10 value.natAbs

theorem unsigned_fixed {places : ℕ} (positive : 0 < places) (value : ℚ) :
    unsigned (whole places value) (fraction places value) =
      units places value / 10 ^ places := by
  have power : 0 < 10 ^ places := by positivity
  have small : units places value % 10 ^ places < 10 ^ places :=
    Nat.mod_lt _ power
  rw [unsigned, Nat.ofDigitChars_append, fraction,
    ofDigitChars_padded _ _ _ positive small, length_padded positive small, whole,
    Nat.ofDigitChars_ten_toDigits, Nat.div_add_mod]

theorem units_eq (places : ℕ) (value : ℚ) :
    (units places value : ℚ) = roundEven (|value| * 10 ^ places) := by
  have nonneg : 0 ≤ roundEven (|value| * 10 ^ places) := by
    apply le_roundEven
    push_cast
    positivity
  rw [units, ← Int.cast_natCast, Int.natAbs_of_nonneg nonneg]

/-- What is written is off by half a unit of the last place at most. -/
theorem abs_fixedValue_sub_le (places : ℕ) (value : ℚ) :
    |fixedValue places value - value| ≤ 1 / 2 / 10 ^ places := by
  have power : (0 : ℚ) < 10 ^ places := by positivity
  have signed : value = (if value < 0 then -1 else 1) * |value| := by
    split
    case isTrue negative => rw [abs_of_neg negative, neg_one_mul, neg_neg]
    case isFalse other => rw [abs_of_nonneg (not_lt.mp other), one_mul]
  have unit : |(if value < 0 then -1 else 1 : ℚ)| = 1 := by
    split
    · rw [abs_neg, abs_one]
    · exact abs_one
  have rounded := abs_roundEven_sub_le (|value| * 10 ^ places)
  calc |fixedValue places value - value|
      = |(units places value : ℚ) / 10 ^ places - abs value| := by
        nth_rewrite 2 [signed]
        rw [fixedValue, ← mul_sub, abs_mul, unit, one_mul]
    _ = |(roundEven (|value| * 10 ^ places) : ℚ) - |value| * 10 ^ places| /
          10 ^ places := by
        rw [units_eq, ← abs_of_pos power, ← abs_div, abs_of_pos power,
          sub_div, mul_div_cancel_right₀ _ power.ne']
    _ ≤ 1 / 2 / 10 ^ places := div_le_div_of_nonneg_right rounded power.le

/-- What is written is zero or has a digit in one of the places. -/
theorem le_abs_fixedValue {places : ℕ} {value : ℚ}
    (nonzero : fixedValue places value ≠ 0) :
    1 / 10 ^ places ≤ |fixedValue places value| := by
  have power : (0 : ℚ) < 10 ^ places := by positivity
  have sign : |(if value < 0 then -1 else 1 : ℚ)| = 1 := by
    split
    · rw [abs_neg, abs_one]
    · exact abs_one
  have count : 1 ≤ units places value := by
    rw [Nat.one_le_iff_ne_zero]
    rintro zero
    apply nonzero
    rw [fixedValue, zero, Nat.cast_zero, zero_div, mul_zero]
  rw [fixedValue, abs_mul, sign, one_mul, abs_of_nonneg (by positivity)]
  exact div_le_div_of_nonneg_right (by exact_mod_cast count) power.le

/-- A number of whole units of the last place is written exactly. -/
theorem fixedValue_of_units {places : ℕ} {value : ℚ} {count : ℤ}
    (exact : value * 10 ^ places = count) : fixedValue places value = value := by
  have power : (0 : ℚ) < 10 ^ places := by positivity
  have scaled : |value| * 10 ^ places = (|count| : ℤ) := by
    rw [Int.cast_abs, ← exact, abs_mul, abs_of_pos power]
  have written : (units places value : ℚ) = |value| * 10 ^ places := by
    rw [units_eq, scaled, roundEven_intCast]
  rw [fixedValue, written, mul_div_cancel_right₀ _ power.ne']
  split
  case isTrue negative => rw [abs_of_neg negative, neg_one_mul, neg_neg]
  case isFalse other => rw [abs_of_nonneg (not_lt.mp other), one_mul]

/-! ## Lengths -/

theorem length_toDigits_le {count digits : ℕ} (positive : 0 < digits)
    (small : count < 10 ^ digits) : (Nat.toDigits 10 count).length ≤ digits :=
  (Nat.length_toDigits_le_iff (by decide) positive).mpr small

theorem units_le {places digits : ℕ} {value : ℚ}
    (small : |value| + 1 ≤ 10 ^ digits) :
    units places value / 10 ^ places < 10 ^ digits := by
  have power : (0 : ℚ) < 10 ^ places := by positivity
  have rounded : roundEven (|value| * 10 ^ places) ≤
      (10 ^ digits - 1) * 10 ^ places := by
    apply roundEven_le
    push_cast
    exact mul_le_mul_of_nonneg_right (by linarith) power.le
  have bound : (units places value : ℤ) ≤ (10 ^ digits - 1) * 10 ^ places := by
    have same := units_eq places value
    have cast : (units places value : ℤ) = roundEven (|value| * 10 ^ places) := by
      exact_mod_cast same
    rwa [cast]
  apply Nat.div_lt_of_lt_mul
  have positive : (0 : ℤ) < 10 ^ places := by positivity
  have strict : (units places value : ℤ) < 10 ^ places * 10 ^ digits := by
    calc (units places value : ℤ) ≤ (10 ^ digits - 1) * 10 ^ places := bound
      _ = 10 ^ places * 10 ^ digits - 10 ^ places := by ring
      _ < 10 ^ places * 10 ^ digits := sub_lt_self _ positive
  exact_mod_cast strict

theorem length_sign_le (negative : Prop) [Decidable negative] :
    (if negative then ['-'] else []).length ≤ 1 := by
  split
  · exact Nat.le_refl 1
  · exact Nat.zero_le 1

theorem length_fixed_le {places digits : ℕ} {value : ℚ}
    (some : 0 < places) (positive : 0 < digits)
    (small : |value| + 1 ≤ 10 ^ digits) :
    (fixed places value).length ≤ digits + places + 2 := by
  have front : (whole places value).length ≤ digits :=
    length_toDigits_le positive (units_le small)
  have back : (fraction places value).length = places :=
    length_padded some (Nat.mod_lt _ (by positivity))
  have minus : (sign value).length ≤ 1 := length_sign_le (value < 0)
  rw [fixed, List.length_append, List.length_append, List.length_cons, back]
  omega

theorem length_integer_le {digits : ℕ} {value : ℤ} (positive : 0 < digits)
    (small : value.natAbs < 10 ^ digits) :
    (integer value).length ≤ digits + 1 := by
  have front := length_toDigits_le positive small
  have minus := length_sign_le (value < 0)
  rw [integer, List.length_append]
  omega

end Windmi.Library.Decimal
