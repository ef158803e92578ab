import Mathlib.Data.List.GetD
import Windmi.Core.Registers
import Windmi.Library.Bytes

/-!
# Checksum and RTU frames

`crc16` of `src/crc16.cpp` and the request frames of
`src/modbus/modbus_rtu_frame.c`, with the checks which both clients make on
the frames they receive.
-/

namespace Windmi.Modbus

open Windmi.Core
open Windmi.Library

/-! ## CRC -/

/-- The inner loop of `crc16` on one bit. -/
def crcShift (crc : Word) : Word :=
  if crc &&& 0x0001 ≠ 0 then (crc >>> 1) ^^^ 0xA001 else crc >>> 1

/-- The outer loop of `crc16` on one byte. -/
def crcByte (crc : Word) (byte : Byte) : Word :=
  Nat.iterate crcShift 8 (crc ^^^ byte.setWidth 16)

def crc16 (data : List Byte) : Word :=
  data.foldl crcByte 0xFFFF

/-- The trailer of a frame: the CRC of all before it, low byte first. -/
def appendCrc (body : List Byte) : List Byte :=
  body ++ [lowByte (crc16 body), highByte (crc16 body)]

@[simp]
theorem length_appendCrc (body : List Byte) :
    (appendCrc body).length = body.length + 2 := by
  simp [appendCrc]

/-! ## Requests -/

def modbusRtuBuildReadFrame (slaveId : Byte) (address count : Word) :
    List Byte :=
  appendCrc
    [slaveId, 0x03, highByte address, lowByte address, highByte count,
      lowByte count]

def modbusRtuBuildWriteFrame (slaveId : Byte) (address value : Word) :
    List Byte :=
  appendCrc
    [slaveId, 0x06, highByte address, lowByte address, highByte value,
      lowByte value]

/-! ## Received frames -/

def byteAt (bytes : List Byte) (index : Nat) : Byte :=
  bytes.getD index 0

theorem byteAt_append_left {front : List Byte} (back : List Byte)
    {index : Nat} (within : index < front.length) :
    byteAt (front ++ back) index = byteAt front index :=
  List.getD_append _ _ _ _ within

theorem byteAt_append_right {front : List Byte} (back : List Byte)
    (index : Nat) :
    byteAt (front ++ back) (front.length + index) = byteAt back index := by
  unfold byteAt
  rw [List.getD_append_right _ _ _ _ (Nat.le_add_right _ _),
    Nat.add_sub_cancel_left]

theorem byteAt_take {bytes : List Byte} {index length : Nat}
    (inside : index < length) :
    byteAt (bytes.take length) index = byteAt bytes index := by
  simp [byteAt, List.getD_eq_getElem?_getD, inside]

/-- The bytes of a header are the first three of a reply. -/
theorem header_bytes (bytes : List Byte) :
    byteAt (bytes.take 3) 0 = byteAt bytes 0 ∧
      byteAt (bytes.take 3) 1 = byteAt bytes 1 ∧
        byteAt (bytes.take 3) 2 = byteAt bytes 2 :=
  ⟨byteAt_take (by decide), byteAt_take (by decide), byteAt_take (by decide)⟩

theorem byteAt_drop (bytes : List Byte) (index skipped : Nat) :
    byteAt (bytes.drop skipped) index = byteAt bytes (skipped + index) := by
  simp [byteAt, List.getD_eq_getElem?_getD]

/-- The value of two received bytes: `bytes_to_uint16`. -/
def bytesToUint16 (bytes : List Byte) (index : Nat) : Word :=
  joinBytes (byteAt bytes index) (byteAt bytes (index + 1))

/-- The checksum which a frame of a given length carries. -/
def crcReceived (frame : List Byte) (length : Nat) : Word :=
  joinBytes (byteAt frame (length - 1)) (byteAt frame (length - 2))

def crcCalculated (frame : List Byte) (length : Nat) : Word :=
  crc16 (frame.take (length - 2))

/-- A frame with its trailer passes the check. -/
theorem crcReceived_appendCrc (body : List Byte) {length : Nat}
    (equal : length = body.length + 2) :
    crcReceived (appendCrc body) length =
      crcCalculated (appendCrc body) length := by
  subst equal
  simp [crcReceived, crcCalculated, appendCrc, byteAt]

/-- Only a frame with its trailer passes the check. -/
theorem crcReceived_eq_iff {frame : List Byte} (enough : 2 ≤ frame.length) :
    crcReceived frame frame.length = crcCalculated frame frame.length ↔
      frame = appendCrc (frame.take (frame.length - 2)) := by
  obtain ⟨low, high, trailer⟩ :
      ∃ low high, frame.drop (frame.length - 2) = [low, high] := by
    refine List.length_eq_two.mp ?_
    rw [List.length_drop]
    omega
  have split : frame.take (frame.length - 2) ++ [low, high] = frame := by
    rw [← trailer, List.take_append_drop]
  generalize frame.take (frame.length - 2) = body at split
  subst split
  have received : crcReceived (body ++ [low, high])
      (body ++ [low, high]).length = joinBytes high low := by
    simp [crcReceived, byteAt]
  have calculated : crcCalculated (body ++ [low, high])
      (body ++ [low, high]).length = crc16 body := by
    simp [crcCalculated]
  rw [received, calculated, joinBytes_eq_iff, appendCrc,
    List.append_cancel_left_eq]
  simp

end Windmi.Modbus
