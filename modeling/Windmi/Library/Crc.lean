import Mathlib.Algebra.Field.ZMod
import Mathlib.Algebra.CharP.Two
import Mathlib.Algebra.Polynomial.Div
import Mathlib.Algebra.Polynomial.FieldDivision
import Mathlib.Data.List.OfFn
import Mathlib.Tactic.LinearCombination

/-!
# Cyclic redundancy checks

A reflected shift register over the field of two elements: the lowest bit of
the register stands for the highest power, and a bit that is shifted out brings
the taps in.  The register holds the remainder of the message, the first bit on
the line being its highest coefficient, by the generator of the taps.  What a
checksum detects are the errors which the generator does not divide.
-/

namespace Windmi.Library.Crc

open Polynomial

/-! ## Bits as coefficients -/

/-- A bit as a coefficient. -/
def bit (value : Bool) : ZMod 2 :=
  if value then 1 else 0

@[simp]
theorem bit_xor (left right : Bool) :
    bit (left ^^ right) = bit left + bit right := by
  cases left <;> cases right <;> decide

@[simp]
theorem bit_false : bit false = 0 :=
  rfl

@[simp]
theorem bit_true : bit true = 1 :=
  rfl

theorem bit_eq_one_iff {value : Bool} : bit value = 1 ↔ value = true := by
  cases value <;> decide

/-- The polynomial of a sequence of bits, highest power first. -/
noncomputable def ofBits : List Bool → (ZMod 2)[X]
  | [] => 0
  | value :: bits => C (bit value) * X ^ bits.length + ofBits bits

@[simp]
theorem ofBits_nil : ofBits [] = 0 :=
  rfl

theorem ofBits_cons (value : Bool) (bits : List Bool) :
    ofBits (value :: bits) = C (bit value) * X ^ bits.length + ofBits bits :=
  rfl

theorem ofBits_append (first second : List Bool) :
    ofBits (first ++ second) =
      X ^ second.length * ofBits first + ofBits second := by
  induction first with
  | nil => simp
  | cons value first ih =>
      rw [List.cons_append, ofBits_cons, ofBits_cons, ih,
        List.length_append]
      ring

theorem ofBits_replicate_false (count : ℕ) :
    ofBits (List.replicate count false) = 0 := by
  induction count with
  | zero => rfl
  | succ count ih =>
      rw [List.replicate_succ, ofBits_cons, ih]
      simp

theorem ofBits_eq_zero_of_forall {bits : List Bool}
    (clear : ∀ value ∈ bits, value = false) : ofBits bits = 0 := by
  rw [List.eq_replicate_of_mem clear]
  exact ofBits_replicate_false bits.length

/-- Exclusive or of bits is addition of polynomials. -/
theorem ofBits_zipWith_xor {first second : List Bool}
    (equal : first.length = second.length) :
    ofBits (List.zipWith xor first second) =
      ofBits first + ofBits second := by
  induction first generalizing second with
  | nil =>
      rw [List.length_eq_zero_iff.mp equal.symm]
      simp
  | cons value first ih =>
      cases second with
      | nil => exact absurd equal (Nat.succ_ne_zero first.length)
      | cons other second =>
          have rest : first.length = second.length := Nat.succ.inj equal
          rw [List.zipWith_cons_cons, ofBits_cons, ofBits_cons, ofBits_cons,
            ih rest, List.length_zipWith, rest, Nat.min_self, bit_xor]
          simp only [C_add]
          ring

theorem degree_ofBits_lt (bits : List Bool) :
    (ofBits bits).degree < bits.length := by
  induction bits with
  | nil =>
      rw [ofBits_nil, degree_zero]
      exact WithBot.bot_lt_coe 0
  | cons value bits ih =>
      have wider : (bits.length : WithBot ℕ) < (value :: bits).length := by
        exact_mod_cast Nat.lt_succ_self bits.length
      rw [ofBits_cons]
      refine (degree_add_le _ _).trans_lt (max_lt ?_ (ih.trans wider))
      exact (degree_C_mul_X_pow_le _ _).trans_lt wider

/-- The first bit is the highest coefficient. -/
theorem coeff_ofBits_cons (value : Bool) (bits : List Bool) :
    (ofBits (value :: bits)).coeff bits.length = bit value := by
  have below := coeff_eq_zero_of_degree_lt (degree_ofBits_lt bits)
  rw [ofBits_cons, coeff_add, coeff_C_mul, coeff_X_pow_self, below]
  ring

theorem coeff_ofBits (bits : List Bool) {index : ℕ}
    (inside : index < bits.length) :
    (ofBits bits).coeff (bits.length - 1 - index) =
      bit (bits[index]) := by
  induction bits generalizing index with
  | nil => exact absurd inside (Nat.not_lt_zero index)
  | cons value bits ih =>
      cases index with
      | zero => exact coeff_ofBits_cons value bits
      | succ index =>
          have rest : index < bits.length := Nat.lt_of_succ_lt_succ inside
          have place : (value :: bits).length - 1 - (index + 1) =
              bits.length - 1 - index := by
            rw [List.length_cons]
            omega
          have lower : bits.length - 1 - index ≠ bits.length := by omega
          rw [place, ofBits_cons, coeff_add, coeff_C_mul, coeff_X_pow,
            if_neg lower, ih rest]
          simp

theorem eq_false_of_ofBits_eq_zero {bits : List Bool}
    (zero : ofBits bits = 0) : ∀ value ∈ bits, value = false := by
  intro value member
  rcases List.getElem_of_mem member with ⟨index, inside, rfl⟩
  have coefficient := coeff_ofBits bits inside
  rw [zero, coeff_zero] at coefficient
  cases known : bits[index] with
  | false => rfl
  | true =>
      rw [known] at coefficient
      exact absurd coefficient (by decide)

/-- The value at one counts the bits that are set. -/
theorem eval_one_ofBits (bits : List Bool) :
    (ofBits bits).eval 1 = (bits.count true : ZMod 2) := by
  induction bits with
  | nil => simp
  | cons value bits ih =>
      rw [ofBits_cons, eval_add, eval_mul, eval_pow, eval_C, eval_X, ih]
      cases value <;> simp [add_comm]

/-! ## Bits of words -/

/-- The bits of a word as they go over the line, lowest first. -/
def lsbFirst {width : ℕ} (word : BitVec width) : List Bool :=
  List.ofFn fun index : Fin width => word.getLsbD index

@[simp]
theorem length_lsbFirst {width : ℕ} (word : BitVec width) :
    (lsbFirst word).length = width :=
  List.length_ofFn

theorem lsbFirst_xor {width : ℕ} (left right : BitVec width) :
    lsbFirst (left ^^^ right) =
      List.zipWith xor (lsbFirst left) (lsbFirst right) := by
  apply List.ext_getElem
  · simp
  · intro index inside other
    simp [lsbFirst]

theorem lsbFirst_append {high low : ℕ} (upper : BitVec high)
    (lower : BitVec low) :
    lsbFirst (upper ++ lower) = lsbFirst lower ++ lsbFirst upper := by
  apply List.ext_getElem
  · simp [Nat.add_comm]
  · intro index inside other
    simp only [lsbFirst, List.getElem_ofFn, List.getElem_append,
      List.length_ofFn, BitVec.getLsbD_append]
    split <;> rfl

/-- The polynomial of a register. -/
noncomputable def ofRegister {width : ℕ} (register : BitVec width) :
    (ZMod 2)[X] :=
  ofBits (lsbFirst register)

theorem ofRegister_xor {width : ℕ} (left right : BitVec width) :
    ofRegister (left ^^^ right) = ofRegister left + ofRegister right := by
  unfold ofRegister
  rw [lsbFirst_xor]
  exact ofBits_zipWith_xor (by simp)

theorem degree_ofRegister_lt {width : ℕ} (register : BitVec width) :
    (ofRegister register).degree < width := by
  simpa [ofRegister] using degree_ofBits_lt (lsbFirst register)

/-- The lowest bit is the highest coefficient. -/
theorem coeff_ofRegister {width : ℕ} (register : BitVec width) {index : ℕ}
    (inside : index < width) :
    (ofRegister register).coeff (width - 1 - index) =
      bit (register.getLsbD index) := by
  have short : index < (lsbFirst register).length := by
    simpa using inside
  have coefficient := coeff_ofBits (lsbFirst register) short
  simp only [length_lsbFirst] at coefficient
  refine coefficient.trans ?_
  simp [lsbFirst, BitVec.getLsbD_eq_getElem inside]

theorem ofRegister_eq_zero_iff {width : ℕ} {register : BitVec width} :
    ofRegister register = 0 ↔ register = 0 := by
  constructor
  · intro zero
    apply BitVec.eq_of_getLsbD_eq
    intro index inside
    have clear := eq_false_of_ofBits_eq_zero zero (register.getLsbD index)
    rw [clear (List.mem_ofFn.mpr ⟨⟨index, inside⟩, rfl⟩)]
    exact (BitVec.getLsbD_zero).symm
  · rintro rfl
    apply ofBits_eq_zero_of_forall
    intro value member
    rcases List.mem_ofFn.mp member with ⟨index, rfl⟩
    exact BitVec.getLsbD_zero

/-- A word in the low bits of a wider register stands for high powers. -/
theorem ofRegister_setWidth {count width : ℕ} (fits : count ≤ width)
    (word : BitVec count) :
    ofRegister (word.setWidth width) =
      X ^ (width - count) * ofBits (lsbFirst word) := by
  have padded : lsbFirst (word.setWidth width) =
      lsbFirst word ++ List.replicate (width - count) false := by
    apply List.ext_getElem
    · simp [fits]
    · intro index inside other
      by_cases low : index < count
      · simp [lsbFirst, low]
      · have outside := BitVec.getLsbD_of_ge word index (by omega)
        simp [lsbFirst, low, List.getElem_append, outside]
  rw [ofRegister, padded, ofBits_append, ofBits_replicate_false,
    List.length_replicate, add_zero]

/-! ## The register -/

/-- The lowest bit goes out and brings the taps in. -/
def shift {width : ℕ} (taps register : BitVec width) : BitVec width :=
  if register.getLsbD 0 then (register >>> 1) ^^^ taps else register >>> 1

/-- The polynomial which the taps divide by. -/
noncomputable def generator {width : ℕ} (taps : BitVec width) :
    (ZMod 2)[X] :=
  X ^ width + ofRegister taps

theorem generator_monic {width : ℕ} (taps : BitVec width) :
    (generator taps).Monic :=
  monic_X_pow_add (degree_ofRegister_lt taps)

theorem degree_generator {width : ℕ} (taps : BitVec width) :
    (generator taps).degree = width := by
  rw [generator, degree_add_eq_left_of_degree_lt, degree_X_pow]
  rw [degree_X_pow]
  exact degree_ofRegister_lt taps

section

variable {width : ℕ} (taps : BitVec (width + 1))

theorem ofRegister_ushiftRight (register : BitVec (width + 1)) :
    X * ofRegister register =
      ofRegister (register >>> 1) +
        C (bit (register.getLsbD 0)) * X ^ (width + 1) := by
  have first : lsbFirst register =
      register.getLsbD 0 ::
        List.ofFn fun index : Fin width => register.getLsbD (index + 1) :=
    List.ofFn_succ
  have shifted : lsbFirst (register >>> 1) =
      (List.ofFn fun index : Fin width => register.getLsbD (index + 1)) ++
        [false] := by
    rw [lsbFirst, List.ofFn_succ', List.concat_eq_append]
    congr 1
    · congr 1
      funext index
      simp [Nat.add_comm]
    · simp
  rw [ofRegister, ofRegister, first, shifted, ofBits_cons, ofBits_append,
    List.length_ofFn]
  simp only [List.length_singleton, ofBits_cons, ofBits_nil, bit_false]
  simp only [map_zero, zero_mul, add_zero, pow_one]
  ring

/-- One shift multiplies by the indeterminate, up to the generator. -/
theorem ofRegister_shift (register : BitVec (width + 1)) :
    X * ofRegister register =
      ofRegister (shift taps register) +
        C (bit (register.getLsbD 0)) * generator taps := by
  rw [ofRegister_ushiftRight, shift, generator]
  cases register.getLsbD 0 with
  | false => simp
  | true =>
      have twice : ofRegister taps + ofRegister taps = 0 :=
        CharTwo.add_self_eq_zero (ofRegister taps)
      rw [if_pos rfl, ofRegister_xor, bit_true, C_1]
      linear_combination -twice

theorem generator_dvd_shifts (count : ℕ) (register : BitVec (width + 1)) :
    generator taps ∣
      ofRegister ((shift taps)^[count] register) -
        X ^ count * ofRegister register := by
  induction count generalizing register with
  | zero => simp
  | succ count ih =>
      rcases ih (shift taps register) with ⟨quotient, equal⟩
      have step := ofRegister_shift taps register
      rw [Function.iterate_succ_apply]
      exact ⟨quotient - X ^ count * C (bit (register.getLsbD 0)), by
        linear_combination equal - X ^ count * step⟩

/-- A word is added to the low bits of the register and shifted through. -/
def feed {count : ℕ} (register : BitVec (width + 1)) (word : BitVec count) :
    BitVec (width + 1) :=
  (shift taps)^[count] (register ^^^ word.setWidth (width + 1))

theorem generator_dvd_feed {count : ℕ} (fits : count ≤ width + 1)
    (register : BitVec (width + 1)) (word : BitVec count) :
    generator taps ∣
      ofRegister (feed taps register word) -
        (X ^ count * ofRegister register +
          X ^ (width + 1) * ofBits (lsbFirst word)) := by
  have shifted := generator_dvd_shifts taps count
    (register ^^^ word.setWidth (width + 1))
  have powers : (X : (ZMod 2)[X]) ^ count * X ^ (width + 1 - count) =
      X ^ (width + 1) := by
    rw [← pow_add, Nat.add_sub_cancel' fits]
  rw [ofRegister_xor, ofRegister_setWidth fits, mul_add, ← mul_assoc,
    powers] at shifted
  exact shifted

/-- The register after a message of words. -/
def checksum {count : ℕ} (initial : BitVec (width + 1))
    (words : List (BitVec count)) : BitVec (width + 1) :=
  words.foldl (feed taps) initial

/-- The bits of a message as they go over the line. -/
def lineBits {count : ℕ} (words : List (BitVec count)) : List Bool :=
  words.flatMap lsbFirst

@[simp]
theorem length_lineBits {count : ℕ} (words : List (BitVec count)) :
    (lineBits words).length = count * words.length := by
  induction words with
  | nil => rfl
  | cons word words ih =>
      rw [lineBits, List.flatMap_cons, List.length_append, length_lsbFirst,
        ← lineBits, ih, List.length_cons]
      ring

theorem lineBits_zipWith_xor {count : ℕ} {first second : List (BitVec count)}
    (equal : first.length = second.length) :
    lineBits (List.zipWith (· ^^^ ·) first second) =
      List.zipWith xor (lineBits first) (lineBits second) := by
  induction first generalizing second with
  | nil => rfl
  | cons word first ih =>
      cases second with
      | nil => exact absurd equal (Nat.succ_ne_zero first.length)
      | cons error second =>
          have rest := ih (Nat.succ.inj equal)
          unfold lineBits at rest ⊢
          rw [List.zipWith_cons_cons, List.flatMap_cons, List.flatMap_cons,
            List.flatMap_cons, rest, lsbFirst_xor,
            ← List.zipWith_append (by simp)]

/--
The message with room for the checksum behind it, and the initial register in
front of it.
-/
noncomputable def dividend {count : ℕ} (initial : BitVec (width + 1))
    (words : List (BitVec count)) : (ZMod 2)[X] :=
  X ^ (lineBits words).length * ofRegister initial +
    X ^ (width + 1) * ofBits (lineBits words)

theorem generator_dvd_checksum {count : ℕ} (fits : count ≤ width + 1)
    (initial : BitVec (width + 1)) (words : List (BitVec count)) :
    generator taps ∣
      ofRegister (checksum taps initial words) -
        dividend initial words := by
  induction words generalizing initial with
  | nil => simp [checksum, dividend, lineBits]
  | cons word words ih =>
      rcases ih (feed taps initial word) with ⟨quotient, equal⟩
      rcases generator_dvd_feed taps fits initial word with ⟨first, step⟩
      have bits : lineBits (word :: words) =
          lsbFirst word ++ lineBits words := rfl
      unfold dividend at equal ⊢
      rw [bits, ofBits_append, List.length_append, length_lsbFirst, pow_add]
      rw [show checksum taps initial (word :: words) =
        checksum taps (feed taps initial word) words from rfl]
      exact ⟨quotient + X ^ (lineBits words).length * first, by
        linear_combination equal + X ^ (lineBits words).length * step⟩

/-- The register holds the remainder of the message. -/
theorem ofRegister_checksum {count : ℕ} (fits : count ≤ width + 1)
    (initial : BitVec (width + 1)) (words : List (BitVec count)) :
    ofRegister (checksum taps initial words) =
      dividend initial words %ₘ generator taps := by
  have monic := generator_monic taps
  have small :
      (ofRegister (checksum taps initial words)).degree <
        (generator taps).degree := by
    rw [degree_generator]
    exact degree_ofRegister_lt _
  have zero := (modByMonic_eq_zero_iff_dvd monic).mpr
    (generator_dvd_checksum taps fits initial words)
  rw [sub_modByMonic, (modByMonic_eq_self_iff monic).mpr small,
    sub_eq_zero] at zero
  exact zero

theorem checksum_eq_zero_iff {count : ℕ} (fits : count ≤ width + 1)
    (initial : BitVec (width + 1)) (words : List (BitVec count)) :
    checksum taps initial words = 0 ↔
      generator taps ∣ dividend initial words := by
  rw [← ofRegister_eq_zero_iff, ofRegister_checksum taps fits,
    modByMonic_eq_zero_iff_dvd (generator_monic taps)]

/-! ## Trailers -/

/-- The constant coefficient of the generator is one. -/
def Proper : Prop :=
  taps.getLsbD width = true

variable {taps}

theorem Proper.isCoprime_X (proper : Proper taps) :
    IsCoprime (generator taps) X := by
  have constant : (generator taps).coeff 0 = 1 := by
    have last := coeff_ofRegister taps (Nat.lt_succ_self width)
    rw [Nat.add_sub_cancel, Nat.sub_self] at last
    rw [generator, coeff_add, last, proper, coeff_X_pow,
      if_neg (Nat.succ_ne_zero width).symm]
    rfl
  rcases X_dvd_sub_C (p := generator taps) with ⟨quotient, equal⟩
  rw [constant, C_1] at equal
  exact ⟨1, -quotient, by linear_combination equal⟩

/-- A power of the indeterminate takes no part in divisibility. -/
theorem Proper.dvd_X_pow_mul_iff (proper : Proper taps) (power : ℕ)
    (polynomial : (ZMod 2)[X]) :
    generator taps ∣ X ^ power * polynomial ↔
      generator taps ∣ polynomial := by
  constructor
  · exact (proper.isCoprime_X.pow_right).dvd_of_dvd_mul_left
  · intro divides
    exact divides.mul_left (X ^ power)

/-- The register is cleared by the checksum behind a message, and only by it. -/
theorem Proper.checksum_append_eq_zero_iff (proper : Proper taps)
    {count : ℕ} (fits : count ≤ width + 1) (initial : BitVec (width + 1))
    (words trailer : List (BitVec count)) (received : BitVec (width + 1))
    (bits : lineBits trailer = lsbFirst received) :
    checksum taps initial (words ++ trailer) = 0 ↔
      received = checksum taps initial words := by
  have whole : dividend initial (words ++ trailer) =
      X ^ (width + 1) *
        (dividend initial words + ofRegister received) := by
    have line : lineBits (words ++ trailer) =
        lineBits words ++ lsbFirst received := by
      rw [← bits]
      exact List.flatMap_append
    rw [dividend, dividend, line, ofBits_append, List.length_append,
      length_lsbFirst]
    simp only [ofRegister]
    ring
  have monic := generator_monic taps
  have reduced : (ofRegister received).degree < (generator taps).degree := by
    rw [degree_generator]
    exact degree_ofRegister_lt received
  rw [checksum_eq_zero_iff taps fits, whole, proper.dvd_X_pow_mul_iff,
    ← modByMonic_eq_zero_iff_dvd monic, add_modByMonic,
    ← ofRegister_checksum taps fits, (modByMonic_eq_self_iff monic).mpr
      reduced, ← ofRegister_xor, ofRegister_eq_zero_iff]
  exact BitVec.xor_eq_zero_iff.trans eq_comm

/-! ## Errors on the line -/

variable {initial : BitVec (width + 1)}

/-- Errors that the generator does not divide are found. -/
theorem Proper.detects (proper : Proper taps) {count : ℕ}
    (fits : count ≤ width + 1) {words errors : List (BitVec count)}
    (equal : words.length = errors.length)
    (accepted : checksum taps initial words = 0)
    (undivided : ¬ generator taps ∣ ofBits (lineBits errors)) :
    checksum taps initial (List.zipWith (· ^^^ ·) words errors) ≠ 0 := by
  have line := lineBits_zipWith_xor equal
  have lengths : (lineBits words).length = (lineBits errors).length := by
    rw [length_lineBits, length_lineBits, equal]
  have disturbed :
      dividend initial (List.zipWith (· ^^^ ·) words errors) =
        dividend initial words +
          X ^ (width + 1) * ofBits (lineBits errors) := by
    rw [dividend, dividend, line, ofBits_zipWith_xor lengths,
      List.length_zipWith, lengths, Nat.min_self]
    ring
  intro undetected
  rw [checksum_eq_zero_iff taps fits] at accepted undetected
  rw [disturbed, dvd_add_right accepted, proper.dvd_X_pow_mul_iff]
    at undetected
  exact undivided undetected

/-- If the generator vanishes at one, no odd number of bits is divided. -/
theorem not_dvd_of_odd (even : (generator taps).eval 1 = 0)
    {bits : List Bool} (odd : Odd (bits.count true)) :
    ¬ generator taps ∣ ofBits bits := by
  rintro ⟨quotient, equal⟩
  have value := eval_one_ofBits bits
  rw [equal, eval_mul, even, zero_mul] at value
  have counted : ((bits.count true : ℕ) : ZMod 2) = 1 :=
    (ZMod.natCast_eq_one_iff_odd).mpr odd
  rw [← value] at counted
  exact zero_ne_one counted

/-- The register of the constant polynomial one. -/
def unit (width : ℕ) : BitVec (width + 1) :=
  BitVec.twoPow (width + 1) width

theorem ofRegister_unit (width : ℕ) : ofRegister (unit width) = 1 := by
  have bits : lsbFirst (unit width) =
      List.replicate width false ++ [true] := by
    rw [lsbFirst, List.ofFn_succ', List.concat_eq_append,
      ← List.ofFn_const]
    congr 1
    · congr 1
      funext index
      simpa [unit] using index.isLt.ne
    · simp [unit]
  rw [ofRegister, bits, ofBits_append, ofBits_replicate_false]
  simp [ofBits_cons]

/-- A period of the indeterminate is one of the register. -/
theorem iterate_unit_of_dvd {count : ℕ}
    (divides : generator taps ∣ X ^ count + 1) :
    (shift taps)^[count] (unit width) = unit width := by
  have shifted := generator_dvd_shifts taps count (unit width)
  have monic := generator_monic taps
  have sum : generator taps ∣
      ofRegister ((shift taps)^[count] (unit width) ^^^ unit width) := by
    have both := shifted.add divides
    rw [ofRegister_unit, mul_one] at both
    rw [ofRegister_xor, ofRegister_unit]
    convert both using 1
    ring
  have small :
      (ofRegister ((shift taps)^[count] (unit width) ^^^ unit width)).degree <
        (generator taps).degree := by
    rw [degree_generator]
    exact degree_ofRegister_lt _
  rw [← modByMonic_eq_zero_iff_dvd monic,
    (modByMonic_eq_self_iff monic).mpr small, ofRegister_eq_zero_iff] at sum
  exact BitVec.xor_eq_zero_iff.mp sum

variable (taps) in
/-- The register takes none of its next values for the constant one. -/
def avoidsUnit : ℕ → BitVec (width + 1) → Bool
  | 0, _ => true
  | count + 1, register =>
      register ≠ unit width && avoidsUnit count (shift taps register)

theorem iterate_ne_of_avoidsUnit {count : ℕ}
    {register : BitVec (width + 1)}
    (avoids : avoidsUnit taps count register = true) {index : ℕ}
    (inside : index < count) :
    (shift taps)^[index] register ≠ unit width := by
  induction count generalizing register index with
  | zero => exact absurd inside (Nat.not_lt_zero index)
  | succ count ih =>
      rw [avoidsUnit, Bool.and_eq_true, decide_eq_true_eq] at avoids
      cases index with
      | zero => exact avoids.1
      | succ index => exact ih avoids.2 (Nat.lt_of_succ_lt_succ inside)

/-- Two bits closer than the period of the register are not divided. -/
theorem Proper.not_dvd_of_pair (proper : Proper taps) {bits : List Bool}
    (two : bits.count true = 2) {period : ℕ} (short : bits.length ≤ period)
    (aperiodic :
      avoidsUnit taps (period - 1) (shift taps (unit width)) = true) :
    ¬ generator taps ∣ ofBits bits := by
  have some : true ∈ bits := List.count_pos_iff.mp (by omega)
  rcases List.eq_append_cons_of_mem some with ⟨front, rest, rfl, clear⟩
  rw [List.count_append, List.count_cons_self,
    List.count_eq_zero_of_not_mem clear] at two
  have other : true ∈ rest := List.count_pos_iff.mp (by omega)
  rcases List.eq_append_cons_of_mem other with
    ⟨middle, back, rfl, clearMiddle⟩
  rw [List.count_append, List.count_cons_self,
    List.count_eq_zero_of_not_mem clearMiddle] at two
  have clearBack : true ∉ back := List.count_eq_zero.mp (by omega)
  have zeros : ∀ {part : List Bool}, true ∉ part → ofBits part = 0 :=
    fun absent => ofBits_eq_zero_of_forall fun value member =>
      Bool.eq_false_of_not_eq_true fun set => absent (set ▸ member)
  have polynomial : ofBits (front ++ true :: (middle ++ true :: back)) =
      X ^ back.length * (X ^ (middle.length + 1) + 1) := by
    rw [ofBits_append, ofBits_cons, ofBits_append, ofBits_cons, zeros clear,
      zeros clearMiddle, zeros clearBack, bit_true, C_1]
    simp only [List.length_append, List.length_cons]
    ring
  rw [polynomial, proper.dvd_X_pow_mul_iff]
  intro divides
  have within : middle.length < period - 1 := by
    simp only [List.length_append, List.length_cons] at short
    omega
  exact iterate_ne_of_avoidsUnit aperiodic within
    (iterate_unit_of_dvd divides)

/-- Bits within a window as wide as the register are not divided. -/
theorem Proper.not_dvd_of_burst (proper : Proper taps) {bits : List Bool}
    (nonzero : true ∈ bits) {start : ℕ}
    (inside : ∀ index, (inside : index < bits.length) → bits[index] = true →
      start ≤ index ∧ index < start + (width + 1)) :
    ¬ generator taps ∣ ofBits bits := by
  let window := (bits.drop start).take (width + 1)
  have before : ∀ value ∈ bits.take start, value = false := by
    intro value member
    rcases List.getElem_of_mem member with ⟨index, within, rfl⟩
    rw [List.length_take] at within
    rw [List.getElem_take]
    cases known : bits[index] with
    | false => rfl
    | true =>
        have := (inside index (by omega) known).1
        omega
  have after : ∀ value ∈ (bits.drop start).drop (width + 1),
      value = false := by
    intro value member
    rcases List.getElem_of_mem member with ⟨index, within, rfl⟩
    rw [List.length_drop, List.length_drop] at within
    rw [List.getElem_drop, List.getElem_drop]
    cases known : bits[start + (width + 1 + index)] with
    | false => rfl
    | true =>
        have := (inside _ (by omega) known).2
        omega
  have split : bits =
      bits.take start ++ (window ++ (bits.drop start).drop (width + 1)) := by
    rw [List.take_append_drop, List.take_append_drop]
  have polynomial : ofBits bits =
      X ^ ((bits.drop start).drop (width + 1)).length * ofBits window := by
    have tail := ofBits_eq_zero_of_forall after
    have head := ofBits_eq_zero_of_forall before
    conv_lhs => rw [split]
    rw [ofBits_append, ofBits_append, head, tail]
    ring
  have small : (ofBits window).degree < (generator taps).degree := by
    rw [degree_generator]
    refine (degree_ofBits_lt window).trans_le ?_
    exact_mod_cast List.length_take_le (width + 1) (bits.drop start)
  rw [polynomial, proper.dvd_X_pow_mul_iff,
    ← modByMonic_eq_zero_iff_dvd (generator_monic taps),
    (modByMonic_eq_self_iff (generator_monic taps)).mpr small]
  intro zero
  have clear := eq_false_of_ofBits_eq_zero zero
  rw [split] at nonzero
  rcases List.mem_append.mp nonzero with first | rest
  · exact absurd (before true first) Bool.true_eq_false_eq_False
  · rcases List.mem_append.mp rest with middle | last
    · exact absurd (clear true middle) Bool.true_eq_false_eq_False
    · exact absurd (after true last) Bool.true_eq_false_eq_False

end

end Windmi.Library.Crc
