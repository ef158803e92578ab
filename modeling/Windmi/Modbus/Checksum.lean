import Windmi.Library.Crc
import Windmi.Modbus.RtuFrame

/-!
# What the checksum is and what it detects

`crc16` of `src/crc16.cpp` is the remainder of the frame, sent lowest bit
first, by `x^16 + x^15 + x^2 + 1`, where the register starts with ones.  The
receivers accept a frame exactly if the checksum of all of it vanishes, and so
find every error which that polynomial does not divide.
-/

namespace Windmi.Modbus

open Polynomial
open Windmi.Core Windmi.Library
open Windmi.Library.Crc (lineBits ofBits ofRegister)

/-! ## The reference -/

/-- The polynomial of CRC-16/MODBUS. -/
noncomputable def crcPolynomial : (ZMod 2)[X] :=
  X ^ 16 + X ^ 15 + X ^ 2 + 1

/-- A register full of ones. -/
noncomputable def initialPolynomial : (ZMod 2)[X] :=
  ∑ power ∈ Finset.range 16, X ^ power

/--
The remainder of the message, followed by 16 zeros and with the initial
register added to its first 16 bits.
-/
noncomputable def crcRemainder (data : List Byte) : (ZMod 2)[X] :=
  (X ^ (8 * data.length) * initialPolynomial +
      X ^ 16 * ofBits (lineBits data)) %ₘ crcPolynomial

/-- The code's constant, its lowest bit being the highest power. -/
def crcTaps : Word :=
  0xA001

theorem generator_crcTaps : Crc.generator crcTaps = crcPolynomial := by
  have bits : Crc.lsbFirst crcTaps =
      [true, false, false, false, false, false, false, false, false, false,
        false, false, false, true, false, true] := by
    decide
  rw [Crc.generator, ofRegister, bits, crcPolynomial]
  simp [Crc.ofBits_cons, ← add_assoc]

theorem ofRegister_initial :
    ofRegister (0xFFFF : Word) = initialPolynomial := by
  have bits : Crc.lsbFirst (0xFFFF : Word) = List.replicate 16 true := by
    decide
  rw [ofRegister, bits, initialPolynomial]
  simp [Crc.ofBits_cons, Finset.sum_range_succ, List.replicate]
  ring

theorem crcTaps_proper : Crc.Proper crcTaps := by
  show (0xA001 : Word).getLsbD 15 = true
  decide

/-! ## The code -/

theorem crcShift_eq (crc : Word) : crcShift crc = Crc.shift crcTaps crc := by
  have lowest : crc &&& 0x0001 ≠ 0 ↔ crc.getLsbD 0 = true := by
    rw [show crc &&& 0x0001 = _ from
      BitVec.and_one_eq_setWidth_ofBool_getLsbD]
    cases crc.getLsbD 0 <;> decide
  rw [crcShift, Crc.shift]
  exact if_congr lowest rfl rfl

theorem crcByte_eq (crc : Word) (byte : Byte) :
    crcByte crc byte = Crc.feed crcTaps crc byte := by
  have shifts : crcShift = Crc.shift crcTaps := funext crcShift_eq
  rw [crcByte, shifts]
  rfl

theorem crc16_eq (data : List Byte) :
    crc16 data = Crc.checksum crcTaps 0xFFFF data := by
  have bytes : crcByte = Crc.feed crcTaps := by
    funext crc byte
    exact crcByte_eq crc byte
  rw [crc16, bytes]
  rfl

theorem ofRegister_crc16 (data : List Byte) :
    ofRegister (crc16 data) = crcRemainder data := by
  have remainder := Crc.ofRegister_checksum crcTaps
    (by decide : 8 ≤ 16) 0xFFFF data
  rw [← crc16_eq, generator_crcTaps, Crc.dividend, ofRegister_initial,
    Crc.length_lineBits] at remainder
  exact remainder

/-- The trailer goes over the line like the register, lowest bit first. -/
theorem lineBits_trailer (low high : Byte) :
    lineBits [low, high] = Crc.lsbFirst (joinBytes high low) := by
  rw [joinBytes_eq_append, Crc.lsbFirst_append]
  rfl

/-- Two bytes behind a message clear the register if they are its checksum. -/
theorem crc16_append_eq_zero_iff (body : List Byte) (low high : Byte) :
    crc16 (body ++ [low, high]) = 0 ↔ joinBytes high low = crc16 body := by
  rw [crc16_eq, crc16_eq]
  exact crcTaps_proper.checksum_append_eq_zero_iff (by decide : 8 ≤ 16)
    0xFFFF body [low, high] (joinBytes high low) (lineBits_trailer low high)

theorem crc16_appendCrc (body : List Byte) :
    crc16 (appendCrc body) = 0 := by
  rw [appendCrc, crc16_append_eq_zero_iff]
  exact joinBytes_highByte_lowByte _

/-- The comparison which the receivers make on a frame. -/
def CrcAccepted (frame : List Byte) : Prop :=
  crcReceived frame frame.length = crcCalculated frame frame.length

instance (frame : List Byte) : Decidable (CrcAccepted frame) :=
  inferInstanceAs (Decidable (_ = _))

theorem crcAccepted_iff {frame : List Byte} (enough : 2 ≤ frame.length) :
    CrcAccepted frame ↔ crc16 frame = 0 := by
  obtain ⟨low, high, trailer⟩ :
      ∃ low high, frame.drop (frame.length - 2) = [low, high] := by
    refine List.length_eq_two.mp ?_
    rw [List.length_drop]
    omega
  have split : frame.take (frame.length - 2) ++ [low, high] = frame := by
    rw [← trailer, List.take_append_drop]
  generalize frame.take (frame.length - 2) = body at split
  subst split
  rw [crc16_append_eq_zero_iff]
  simp [CrcAccepted, crcReceived, crcCalculated, byteAt]

/--
`crc16` computes CRC-16/MODBUS for every message; a frame passes the check if
and only if its own checksum is zero, as the frames that are built do.
-/
theorem crc16_modbus :
    (∀ data : List Byte, ∀ index < 16,
      (crc16 data).getLsbD index = true ↔
        (crcRemainder data).coeff (15 - index) = 1) ∧
      (∀ data : List Byte,
        crc16 (data ++ [lowByte (crc16 data), highByte (crc16 data)]) = 0) ∧
      (∀ frame : List Byte, 2 ≤ frame.length →
        (CrcAccepted frame ↔ crc16 frame = 0)) ∧
      (∀ slaveId address count,
        CrcAccepted (modbusRtuBuildReadFrame slaveId address count)) ∧
      (∀ slaveId address value,
        CrcAccepted (modbusRtuBuildWriteFrame slaveId address value)) := by
  refine ⟨?_, crc16_appendCrc, fun frame => crcAccepted_iff, ?_, ?_⟩
  · intro data index inside
    have coefficient := Crc.coeff_ofRegister (crc16 data) inside
    rw [ofRegister_crc16] at coefficient
    rw [coefficient, Crc.bit_eq_one_iff]
  · intro slaveId address count
    exact crcReceived_appendCrc _ (length_appendCrc _)
  · intro slaveId address value
    exact crcReceived_appendCrc _ (length_appendCrc _)

/-- The check accepts the reply 11 03 02 01 C2 with its trailer. -/
theorem crc16_modbus_reply :
    CrcAccepted [0x0B, 0x03, 0x02, 0x01, 0xC2, 0xA0, 0x44] ↔
      crc16 [0x0B, 0x03, 0x02, 0x01, 0xC2, 0xA0, 0x44] = 0 :=
  crc16_modbus.2.2.1 _ (by decide)

end Windmi.Modbus
