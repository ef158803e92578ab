import Windmi.Modbus.Checksum

/-!
# Noise on the line

Whatever frame is disturbed, the check finds an odd number of flipped bits, two
flipped bits in a frame of at most 256 bytes and flips within 16 consecutive
bits of the line.
-/

namespace Windmi.Modbus

open Polynomial
open Windmi.Core Windmi.Library
open Windmi.Library.Crc (lineBits ofBits)

/-- A frame with some bits flipped on the line. -/
def disturb (frame errors : List Byte) : List Byte :=
  List.zipWith (· ^^^ ·) frame errors

/-- The bits which an error pattern flips, in the order of the line. -/
def flips (errors : List Byte) : List Bool :=
  lineBits errors

/-- All flips lie within 16 consecutive bits, beginning at some bit. -/
def Burst (errors : List Byte) : Prop :=
  ∃ start, ∀ index, (inside : index < (flips errors).length) →
    (flips errors)[index] = true → start ≤ index ∧ index < start + 16

/-- The kinds of noise that the check is there to find. -/
structure LineNoise (errors : List Byte) : Prop where
  nonzero : ∃ error ∈ errors, error ≠ 0
  kind : Odd ((flips errors).count true) ∨ (flips errors).count true = 2 ∨
    Burst errors

theorem true_mem_flips {errors : List Byte}
    (nonzero : ∃ error ∈ errors, error ≠ 0) : true ∈ flips errors := by
  rcases nonzero with ⟨error, member, different⟩
  by_contra clear
  refine different (Crc.ofRegister_eq_zero_iff.mp ?_)
  apply Crc.ofBits_eq_zero_of_forall
  intro value inside
  refine Bool.eq_false_of_not_eq_true fun set => clear ?_
  rw [← set]
  exact List.mem_flatMap.mpr ⟨error, member, inside⟩

/-- The polynomial is divided by `x + 1`. -/
theorem generator_even : (Crc.generator crcTaps).eval 1 = 0 := by
  rw [generator_crcTaps, crcPolynomial]
  simp only [eval_add, eval_pow, eval_X, eval_one, one_pow]
  decide

/-- No power of `x` below the 2048th leaves the remainder one. -/
theorem crcTaps_aperiodic :
    Crc.avoidsUnit crcTaps 2047
      (Crc.shift crcTaps (Crc.unit 15)) = true := by
  decide +kernel

/-- The polynomial divides no noise in a frame of at most 256 bytes. -/
theorem LineNoise.not_dvd {errors : List Byte} (noise : LineNoise errors)
    (short : errors.length ≤ 256) :
    ¬ Crc.generator crcTaps ∣ ofBits (flips errors) := by
  rcases noise.kind with odd | two | ⟨start, inside⟩
  · exact Crc.not_dvd_of_odd generator_even odd
  · have bits : (flips errors).length ≤ 2048 := by
      rw [flips, Crc.length_lineBits]
      omega
    exact crcTaps_proper.not_dvd_of_pair two bits crcTaps_aperiodic
  · exact crcTaps_proper.not_dvd_of_burst (true_mem_flips noise.nonzero)
      inside

/--
Flip an odd number of bits, two bits or bits within a window of 16 in a frame
which passes the check, and it no longer does.
-/
theorem line_noise_detected {frame errors : List Byte}
    (long : 3 ≤ frame.length) (short : frame.length ≤ 256)
    (accepted : CrcAccepted frame) (equal : errors.length = frame.length)
    (noise : LineNoise errors) :
    ¬ CrcAccepted (disturb frame errors) := by
  have length : (disturb frame errors).length = frame.length := by
    rw [disturb, List.length_zipWith, equal, Nat.min_self]
  rw [crcAccepted_iff (by omega), crc16_eq] at accepted
  rw [crcAccepted_iff (by omega), crc16_eq]
  exact crcTaps_proper.detects (by decide : 8 ≤ 16) equal.symm accepted
    (noise.not_dvd (by omega))

/-- Two flips, in the first byte and in the trailer of a request. -/
theorem line_noise_detected_request :
    ¬ CrcAccepted
      (disturb (modbusRtuBuildReadFrame 11 1 1) [1, 0, 0, 0, 0, 0, 0, 128]) :=
  line_noise_detected (by decide) (by decide)
    (crcReceived_appendCrc _ (length_appendCrc _)) (by decide)
    { nonzero := ⟨1, by decide, by decide⟩
      kind := Or.inr (Or.inl (by decide)) }

end Windmi.Modbus
