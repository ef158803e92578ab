import Mathlib.Data.List.TakeWhile
import Windmi.Core.Temperature
import Windmi.Library.Decimal
import Windmi.Utils.Config

/-!
# Numbers in texts

`std::stod` and the cast to `float`, with hexadecimal numbers, infinities, NaN
and numbers out of range; and that `std::stoi` and `std::stod` read again what
`std::to_string` wrote.
-/

namespace Windmi.Utils

open Windmi.Core
open Windmi.Library

/-! ## Reading -/

inductive Double where
  | finite (value : ℚ)
  | infinite (negative : Bool)
  | nan
  deriving DecidableEq

/-- The `float` that the double is cast to, if it is a number. -/
def Double.single : Double → Option ℚ
  | .finite value =>
      if |toFloat value| < 2 ^ 128 then some (toFloat value) else none
  | .infinite _ | .nan => none

/-- The nearest double; `none` is an overflow, or an underflow that loses
digits. -/
def toDouble (value : ℚ) : Option ℚ :=
  let rounded := roundTo 53 value
  if 2 ^ 1024 ≤ |rounded| ∨
      |rounded| < 1 / 2 ^ 1022 ∧ (value * 2 ^ 1074).den ≠ 1 then none
  else some rounded

/-- The exponent after its mark, if there is one. -/
def exponentValue (mark : Char) (rest : List Char) : Int :=
  if rest.head?.map Char.toLower = some mark then
    let chars := rest.tail
    let sign : Int := if chars.head? = some '-' then -1 else 1
    let unsigned :=
      if chars.head? = some '-' ∨ chars.head? = some '+' then chars.tail
      else chars
    sign * digitsValue (unsigned.takeWhile Char.isDigit)
  else
    0

/-- The digits of a number, those after its point, and what follows. -/
def mantissa (isDigit : Char → Bool) (chars : List Char) :
    List Char × List Char × List Char :=
  let whole := chars.takeWhile isDigit
  let rest := chars.dropWhile isDigit
  if rest.head? = some '.' then
    (whole, rest.tail.takeWhile isDigit, rest.tail.dropWhile isDigit)
  else
    (whole, [], rest)

def decimal (chars : List Char) : Option ℚ :=
  let (whole, fraction, rest) := mantissa Char.isDigit chars
  if whole = [] ∧ fraction = [] then none
  else some (Decimal.unsigned whole fraction * 10 ^ exponentValue 'e' rest)

def hexDigits : List Char :=
  "0123456789abcdef".toList

def hexValue (digits : List Char) : Nat :=
  digits.foldl (fun value digit =>
    16 * value + hexDigits.idxOf digit.toLower) 0

/-- A number with the prefix `0x`. -/
def hexadecimal (chars : List Char) : Option ℚ :=
  if (chars.take 2).map Char.toLower = ['0', 'x'] then
    let (whole, fraction, rest) :=
      mantissa (fun char => char.toLower ∈ hexDigits) (chars.drop 2)
    if whole = [] ∧ fraction = [] then none
    else
      some ((hexValue (whole ++ fraction) : ℚ) / 16 ^ fraction.length *
        2 ^ exponentValue 'p' rest)
  else
    none

/-- `std::stod`: the rest of the text is ignored, `none` is an exception. -/
def stod (text : String) : Option Double :=
  let chars := text.toList.dropWhile isSpace
  let sign : ℚ := if chars.head? = some '-' then -1 else 1
  let unsigned :=
    if chars.head? = some '-' ∨ chars.head? = some '+' then chars.tail
    else chars
  let word := (unsigned.take 3).map Char.toLower
  if word = ['i', 'n', 'f'] then
    some (.infinite (chars.head? = some '-'))
  else if word = ['n', 'a', 'n'] then
    some .nan
  else
    ((hexadecimal unsigned).or (decimal unsigned)).bind fun value =>
      (toDouble (sign * value)).map Double.finite

example : stod " 0x1.8p4 C" = some (.finite 24) := by
  decide +kernel

/-- What the cast gives is a float. -/
theorem Double.single_eq_some {double : Double} {target : ℚ}
    (cast : double.single = some target) :
    toFloat target = target ∧ |toFloat target| < 2 ^ 128 := by
  cases double with
  | finite value =>
      rcases Option.ite_none_right_eq_some.mp cast with ⟨finite, same⟩
      have again : toFloat target = target := by
        rw [← Option.some.inj same]
        exact roundTo_idem 23 value
      refine ⟨again, ?_⟩
      rw [again, ← Option.some.inj same]
      exact finite
  | infinite | nan => cases cast

/-! ## Texts of numbers -/

/-- A number as it is written: a sign and digits. -/
structure Signed (negative : Prop) [Decidable negative]
    (chars unsigned : List Char) : Prop where
  trimmed : chars.dropWhile isSpace = chars
  sign : chars.head? = some '-' ↔ negative
  unsigned : (if chars.head? = some '-' ∨ chars.head? = some '+' then
    chars.tail else chars) = unsigned

theorem signed_of_digit (negative : Prop) [Decidable negative] {first : Char}
    (digit : first.isDigit = true) (rest : List Char) :
    Signed negative ((if negative then ['-'] else []) ++ first :: rest)
      (first :: rest) := by
  have minus : first ≠ '-' := by
    rintro rfl
    cases digit
  have plus : first ≠ '+' := by
    rintro rfl
    cases digit
  have solid : isSpace first = false := by
    rw [isSpace, decide_eq_false_iff_not]
    intro member
    simp only [List.mem_cons, List.not_mem_nil, or_false] at member
    rcases member with rfl | rfl | rfl | rfl | rfl | rfl
    all_goals cases digit
  by_cases negative : negative
  · rw [if_pos negative]
    exact
      { trimmed := rfl
        sign := iff_of_true rfl negative
        unsigned := rfl }
  · rw [if_neg negative]
    constructor
    · rw [List.nil_append, List.dropWhile_cons, solid]
      rfl
    · refine iff_of_false ?_ negative
      simp [minus]
    · simp [minus, plus]

theorem digitsValue_eq {digits : List Char}
    (all : ∀ char ∈ digits, char.isDigit = true) :
    digitsValue digits = Nat.ofDigitChars 10 digits 0 := by
  have fold : ∀ value : Nat,
      digits.foldl (fun (value : Int) (digit : Char) =>
        10 * value + (digit.toNat - 48)) (value : Int) =
          Nat.ofDigitChars 10 digits value := by
    induction digits with
    | nil => exact fun value => rfl
    | cons digit digits ih =>
        intro value
        have range := Char.isDigit_iff_toNat.mp (all digit List.mem_cons_self)
        rw [List.foldl_cons, Nat.ofDigitChars_cons,
          ← ih fun char member => all char (List.mem_cons_of_mem _ member)]
        congr 1
        rw [Nat.cast_add, Nat.cast_sub range.1]
        push_cast
        rfl
  exact fold 0

/-- `stoi` reads what `to_string` wrote. -/
theorem stoi_integer {value : Int} (lower : -2147483648 ≤ value)
    (upper : value ≤ 2147483647) :
    stoi (String.ofList (Decimal.integer value)) = some value := by
  rcases Decimal.toDigits_eq_cons value.natAbs with ⟨first, rest, digits, digit⟩
  have all : ∀ char ∈ first :: rest, char.isDigit = true := by
    rw [← digits]
    exact fun char => Decimal.isDigit_of_mem_toDigits
  have signed := signed_of_digit (value < 0) digit rest
  have whole : (first :: rest).takeWhile Char.isDigit = first :: rest :=
    List.takeWhile_eq_self_iff.mpr all
  have amount : digitsValue (first :: rest) = value.natAbs := by
    rw [digitsValue_eq all, ← digits, Nat.ofDigitChars_ten_toDigits]
  have product : (if value < 0 then -1 else 1 : Int) * value.natAbs =
      value := by
    split
    · omega
    · omega
  rw [stoi, Decimal.integer, digits, String.toList_ofList, signed.trimmed]
  simp only [signed.unsigned]
  simp only [signed.sign, whole, amount, product]
  rw [if_neg]
  rintro (empty | below | above)
  · cases empty
  · omega
  · omega

/-- `stoi` gives an `int`. -/
theorem stoi_mem {text : String} {value : Int} (parsed : stoi text = some value) :
    -2147483648 ≤ value ∧ value ≤ 2147483647 := by
  have range := (Option.ite_none_left_eq_some.mp parsed).1
  have same := Option.some.inj (Option.ite_none_left_eq_some.mp parsed).2
  rw [not_or, not_or, same] at range
  exact ⟨not_lt.mp range.2.1, not_lt.mp range.2.2⟩

/-- What numbers are written with. -/
def Numeric (char : Char) : Prop :=
  char.isDigit = true ∨ char = '-' ∨ char = '.'

theorem toNat_of_numeric {char : Char} (numeric : Numeric char) :
    45 ≤ char.toNat ∧ char.toNat ≤ 57 := by
  rcases numeric with digit | rfl | rfl
  · rcases Char.isDigit_iff_toNat.mp digit with ⟨least, most⟩
    exact ⟨le_trans (by decide) least, most⟩
  · decide
  · decide

theorem numeric_integer (value : Int) :
    ∀ char ∈ Decimal.integer value, Numeric char := by
  intro char member
  rcases List.mem_append.mp member with sign | digit
  · split at sign
    · exact Or.inr (Or.inl (List.mem_singleton.mp sign))
    · cases sign
  · exact Or.inl (Decimal.isDigit_of_mem_toDigits digit)

theorem numeric_fixed (value : ℚ) :
    ∀ char ∈ Decimal.fixed 6 value, Numeric char := by
  intro char member
  rcases List.mem_append.mp member with front | back
  · rcases List.mem_append.mp front with sign | digit
    · rw [Decimal.sign] at sign
      split at sign
      · exact Or.inr (Or.inl (List.mem_singleton.mp sign))
      · cases sign
    · exact Or.inl (Decimal.isDigit_of_mem_toDigits digit)
  · rcases List.mem_cons.mp back with point | digit
    · exact Or.inr (Or.inr point)
    · exact Or.inl (Decimal.isDigit_of_mem_padded digit)

/-- There are no letters among them. -/
theorem not_mem_toLower_of_numeric {chars : List Char}
    (numeric : ∀ char ∈ chars, Numeric char) (count : Nat) {letter : Char}
    (high : 57 < letter.toNat) :
    letter ∉ (chars.take count).map Char.toLower := by
  intro member
  rcases List.mem_map.mp member with ⟨char, taken, rfl⟩
  have low := (toNat_of_numeric (numeric char (List.mem_of_mem_take taken))).2
  have same : char.toLower = char := by
    apply dif_neg
    rintro ⟨above, -⟩
    exact not_le.mpr (lt_of_le_of_lt low (by decide)) above
  rw [same] at high
  omega

/-- What `to_string` writes of a float is in the range of a double. -/
theorem toDouble_fixedValue {value : ℚ} (bounded : |value| ≤ 2 ^ 128) :
    toDouble (Decimal.fixedValue 6 value) =
      some (roundTo 53 (Decimal.fixedValue 6 value)) := by
  generalize written : Decimal.fixedValue 6 value = number
  have near : |number - value| ≤ 1 / 2 / 10 ^ 6 := by
    rw [← written]
    exact Decimal.abs_fixedValue_sub_le 6 value
  have upper : |number| ≤ 2 ^ (129 : ℤ) := by
    calc |number| = |value + (number - value)| := by rw [add_sub_cancel]
      _ ≤ |value| + |number - value| := abs_add_le ..
      _ ≤ 2 ^ 128 + 1 / 2 / 10 ^ 6 := add_le_add bounded near
      _ ≤ 2 ^ (129 : ℤ) := by norm_num
  have most : |roundTo 53 number| < 2 ^ 1024 := by
    calc |roundTo 53 number| ≤ 2 ^ (129 : ℤ) := abs_roundTo_le 52 upper
      _ = 2 ^ 129 := by norm_cast
      _ < 2 ^ 1024 := pow_lt_pow_right₀ one_lt_two (by norm_num)
  apply if_neg
  rintro (overflow | ⟨tiny, inexact⟩)
  · exact not_le.mpr most overflow
  · rcases eq_or_ne number 0 with rfl | nonzero
    · simp at inexact
    · rw [← written] at nonzero
      have least := Decimal.le_abs_fixedValue nonzero
      rw [written] at least
      have above : (2 : ℚ) ^ (-20 : ℤ) ≤ |number| :=
        le_trans (by norm_num) least
      have rounded := le_abs_roundTo 52 above
      have order : (1 : ℚ) / 2 ^ 1022 ≤ 2 ^ (-20 : ℤ) := by
        rw [zpow_neg, ← one_div]
        apply one_div_le_one_div_of_le (by positivity)
        exact pow_le_pow_right₀ one_le_two (by norm_num)
      exact not_le.mpr tiny (order.trans rounded)

/-- Digits, a point and digits are read as that number. -/
theorem decimal_of_digits {whole fraction : List Char}
    (front : ∀ char ∈ whole, char.isDigit = true)
    (back : ∀ char ∈ fraction, char.isDigit = true) (nonempty : whole ≠ []) :
    decimal (whole ++ '.' :: fraction) =
      some (Decimal.unsigned whole fraction) := by
  have first := @Decimal.span_isDigit whole ('.' :: fraction) front (by
    rintro char ⟨⟩
    rfl)
  rw [List.span_eq_takeWhile_dropWhile, Prod.mk.injEq] at first
  have second : fraction.takeWhile Char.isDigit = fraction :=
    List.takeWhile_eq_self_iff.mpr back
  have nothing : fraction.dropWhile Char.isDigit = [] :=
    List.dropWhile_eq_nil_iff.mpr back
  simp [decimal, mantissa, first, second, nothing, nonempty, exponentValue]

/-- `stod` reads what `to_string` wrote, to the precision of a double. -/
theorem stod_fixed {value : ℚ} (bounded : |value| ≤ 2 ^ 128) :
    stod (String.ofList (Decimal.fixed 6 value)) =
      some (.finite (roundTo 53 (Decimal.fixedValue 6 value))) := by
  rcases Decimal.toDigits_eq_cons (Decimal.units 6 value / 10 ^ 6) with
    ⟨first, rest, digits, digit⟩
  have front : ∀ char ∈ first :: rest, char.isDigit = true := by
    rw [← digits]
    exact fun char => Decimal.isDigit_of_mem_toDigits
  have back : ∀ char ∈ Decimal.fraction 6 value, char.isDigit = true :=
    fun char => Decimal.isDigit_of_mem_padded
  let unsigned := first :: (rest ++ '.' :: Decimal.fraction 6 value)
  have signed : Signed (value < 0) _ unsigned :=
    signed_of_digit (value < 0) digit (rest ++ '.' :: Decimal.fraction 6 value)
  have text : Decimal.fixed 6 value =
      (if value < 0 then ['-'] else []) ++ unsigned := by
    rw [Decimal.fixed, Decimal.whole, digits, Decimal.sign,
      List.append_assoc, List.cons_append]
  have numeric : ∀ char ∈ unsigned, Numeric char := by
    intro char member
    apply numeric_fixed value
    rw [text]
    exact List.mem_append_right _ member
  have noLetter {count : Nat} {word : List Char} {letter : Char}
      (member : letter ∈ word) (high : 57 < letter.toNat) :
      (unsigned.take count).map Char.toLower ≠ word := by
    rintro rfl
    exact not_mem_toLower_of_numeric numeric count high member
  have amount := @Decimal.unsigned_fixed 6 (by norm_num) value
  rw [Decimal.whole, digits] at amount
  have plain : hexadecimal unsigned = none :=
    if_neg (noLetter (List.mem_of_mem_getLast? rfl) (by decide))
  have number : decimal unsigned =
      some (Decimal.units 6 value / 10 ^ 6 : ℚ) := by
    rw [← amount]
    exact decimal_of_digits front back (List.cons_ne_nil _ _)
  rw [stod, text, String.toList_ofList, signed.trimmed]
  simp only [signed.unsigned]
  simp only [signed.sign]
  rw [if_neg (noLetter List.mem_cons_self (by decide)),
    if_neg (noLetter List.mem_cons_self (by decide)), plain, number,
    Option.none_or, Option.bind_some]
  rw [show _ * (Decimal.units 6 value / 10 ^ 6 : ℚ) =
    Decimal.fixedValue 6 value from rfl, toDouble_fixedValue bounded,
    Option.map_some]

end Windmi.Utils
