import Mathlib.Data.BitVec

/-!
# Bytes of words

A 16-bit word as two bytes, and lists of words as lists of bytes, the high
byte of each word first.
-/

namespace Windmi.Library

abbrev Byte := BitVec 8

/-- The word of a high and a low byte. -/
def joinBytes (high low : Byte) : BitVec 16 :=
  (high.setWidth 16 <<< 8) ||| low.setWidth 16

def highByte (word : BitVec 16) : Byte :=
  ((word >>> 8) &&& 0xFF).setWidth 8

def lowByte (word : BitVec 16) : Byte :=
  (word &&& 0xFF).setWidth 8

theorem highByte_eq (word : BitVec 16) :
    highByte word = (word >>> 8).setWidth 8 := by
  apply BitVec.eq_of_toNat_eq
  have bound := word.isLt
  simp only [highByte, BitVec.toNat_setWidth, BitVec.toNat_and,
    BitVec.toNat_ushiftRight]
  rw [show (0xFF : BitVec 16).toNat = 2 ^ 8 - 1 from rfl,
    Nat.and_two_pow_sub_one_eq_mod]
  omega

theorem lowByte_eq (word : BitVec 16) : lowByte word = word.setWidth 8 := by
  apply BitVec.eq_of_toNat_eq
  simp only [lowByte, BitVec.toNat_setWidth, BitVec.toNat_and]
  rw [show (0xFF : BitVec 16).toNat = 2 ^ 8 - 1 from rfl,
    Nat.and_two_pow_sub_one_eq_mod]
  omega

/-- A word is made of its two bytes. -/
@[simp]
theorem joinBytes_highByte_lowByte (word : BitVec 16) :
    joinBytes (highByte word) (lowByte word) = word := by
  rw [highByte_eq, lowByte_eq]
  apply BitVec.eq_of_getLsbD_eq
  intro index inside
  simp only [joinBytes, BitVec.getLsbD_or, BitVec.getLsbD_shiftLeft,
    BitVec.getLsbD_setWidth, BitVec.getLsbD_ushiftRight]
  by_cases low : index < 8
  · simp [inside, low]
  · have above : 8 + (index - 8) = index := by omega
    have small : index - 8 < 8 := by omega
    have shifted : index - 8 < 16 := by omega
    simp [inside, low, above, small, shifted]

@[simp]
theorem highByte_joinBytes (high low : Byte) :
    highByte (joinBytes high low) = high := by
  rw [highByte_eq]
  apply BitVec.eq_of_getLsbD_eq
  intro index inside
  have shifted : 8 + index < 16 := by omega
  have above : ¬ 8 + index < 8 := by omega
  simp [joinBytes, inside, shifted, above]

@[simp]
theorem lowByte_joinBytes (high low : Byte) :
    lowByte (joinBytes high low) = low := by
  rw [lowByte_eq]
  apply BitVec.eq_of_getLsbD_eq
  intro index inside
  simp [joinBytes, inside]

theorem joinBytes_eq_append (high low : Byte) :
    joinBytes high low = high ++ low := by
  apply BitVec.eq_of_getLsbD_eq
  intro index inside
  simp only [joinBytes, BitVec.getLsbD_or, BitVec.getLsbD_shiftLeft,
    BitVec.getLsbD_setWidth, BitVec.getLsbD_append]
  by_cases within : index < 8
  · simp [inside, within]
  · have outside := BitVec.getLsbD_of_ge low index (by omega)
    have small : index - 8 < 16 := by omega
    simp [inside, within, small, outside]

/-- The two bytes of a word are its only ones. -/
theorem joinBytes_eq_iff {high low : Byte} {word : BitVec 16} :
    joinBytes high low = word ↔
      low = lowByte word ∧ high = highByte word := by
  constructor
  · rintro rfl
    simp
  · rintro ⟨rfl, rfl⟩
    exact joinBytes_highByte_lowByte word

/-! ## Lists of words -/

/-- The bytes of a list of words, high bytes first. -/
def bigEndian (words : List (BitVec 16)) : List Byte :=
  words.flatMap fun word => [highByte word, lowByte word]

@[simp]
theorem bigEndian_nil : bigEndian [] = [] :=
  rfl

@[simp]
theorem bigEndian_cons (word : BitVec 16) (words : List (BitVec 16)) :
    bigEndian (word :: words) =
      highByte word :: lowByte word :: bigEndian words :=
  rfl

@[simp]
theorem length_bigEndian (words : List (BitVec 16)) :
    (bigEndian words).length = 2 * words.length := by
  induction words with
  | nil => rfl
  | cons word words ih =>
      simp only [bigEndian_cons, List.length_cons, ih]
      omega

/-- Two bytes from an even place on are one of the words. -/
theorem bigEndian_word (words : List (BitVec 16)) (tail : List Byte)
    {index : Nat} (inside : index < words.length) :
    joinBytes ((bigEndian words ++ tail).getD (index * 2) 0)
        ((bigEndian words ++ tail).getD (index * 2 + 1) 0) =
      words.getD index 0 := by
  induction words generalizing index with
  | nil => exact absurd inside (Nat.not_lt_zero index)
  | cons word words ih =>
      cases index with
      | zero => simp
      | succ index =>
          have shifted : (index + 1) * 2 = index * 2 + 2 := by omega
          rw [shifted]
          simpa using ih (Nat.lt_of_succ_lt_succ inside)

end Windmi.Library
