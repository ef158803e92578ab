import Windmi.Modbus.Exchanges

/-!
# Register access from end to end

Against a slave that holds a map from addresses to words, over a line that is
never late, both clients read exactly the contents of the map and write
exactly the addressed word, in whatever chunks the replies come.
-/

namespace Windmi.Modbus

open Windmi.Core
open Windmi.Library

/-- The words of consecutive registers. -/
def registersFrom (registers : RegisterFile) (address count : Word) :
    List Word :=
  (List.range count.toNat).map fun index =>
    registers (address + BitVec.ofNat 16 index)

/--
A read of some registers has succeeded with one request: the array holds their
signed values and is otherwise unchanged, and so is the slave.
-/
structure ReadOf (slaveId : Byte) (log : List Exchange)
    (registers : RegisterFile) (address count : Word) (values : Nat → Int)
    (result : ReadResult (SlaveLink RegisterFile)) : Prop where
  code : result.code = 0
  inside : ∀ index < count.toNat,
    result.values index =
      (registers (address + BitVec.ofNat 16 index)).toInt
  outside : ∀ index, count.toNat ≤ index →
    result.values index = values index
  client : Awaits (memorySlave slaveId) true
    ({ request := .read address count
       answer := .ok (registersFrom registers address count) } :: log)
    registers [] result.client

/--
A write has succeeded with one request and one read-back, and has changed the
addressed register only.
-/
structure WriteOf (slaveId : Byte) (log : List Exchange)
    (registers : RegisterFile) (address value : Word)
    (result : Int × Client (SlaveLink RegisterFile)) : Prop where
  code : result.1 = 0
  client : Awaits (memorySlave slaveId) true
    ({ request := .read address 1, answer := .ok [value] } ::
      { request := .write address value, answer := .ok [value] } :: log)
    (Function.update registers address value) [] result.2

/-- Every access of a connected client with nothing pending succeeds. -/
structure RegisterAccess (slaveId : Byte)
    (readRegister : Word → (Nat → Int) → Client (SlaveLink RegisterFile) →
      ReadResult (SlaveLink RegisterFile))
    (readRegisters : Word → (Nat → Int) → Word →
      Client (SlaveLink RegisterFile) → ReadResult (SlaveLink RegisterFile))
    (writeRegister : Word → Word → Client (SlaveLink RegisterFile) →
      Int × Client (SlaveLink RegisterFile)) : Prop where
  readRegister : ∀ {log registers client},
    Awaits (memorySlave slaveId) true log registers [] client →
      ∀ address values,
        ReadOf slaveId log registers address 1 values
          (readRegister address values client)
  readRegisters : ∀ {log registers client},
    Awaits (memorySlave slaveId) true log registers [] client →
      ∀ (address : Word) values (count : Word), 1 ≤ count.toNat →
        count.toNat ≤ 125 → address.toNat + count.toNat ≤ 65536 →
          ReadOf slaveId log registers address count values
            (readRegisters address values count client)
  writeRegister : ∀ {log registers client},
    Awaits (memorySlave slaveId) true log registers [] client →
      ∀ address value,
        WriteOf slaveId log registers address value
          (writeRegister address value client)

/-! ## The answers of the slave -/

theorem answerFromMap_read {address count : Word}
    (registers : RegisterFile) (positive : 1 ≤ count.toNat)
    (few : count.toNat ≤ 125)
    (inside : address.toNat + count.toNat ≤ 65536) :
    answerFromMap (.read address count) registers =
      (.ok (registersFrom registers address count), registers) := by
  have admitted : ¬ (count = 0 ∨ 125 < count.toNat) := by
    rintro (rfl | many)
    · exact absurd positive (by decide)
    · omega
  simp only [answerFromMap]
  rw [if_neg admitted, if_neg (Nat.not_lt.mpr inside)]
  rfl

theorem answerFromMap_read_one (registers : RegisterFile)
    (address : Word) :
    answerFromMap (.read address 1) registers =
      (.ok [registers address], registers) := by
  have below : address.toNat < 65536 := address.isLt
  have one : (1 : Word).toNat = 1 := rfl
  rw [answerFromMap_read registers one.ge (by rw [one]; omega)
    (by rw [one]; omega)]
  simp [registersFrom]

section

variable {slaveId : Byte} {delays : Delays}
  {transport : Transport (SlaveLink RegisterFile)} {log : List Exchange}
  {registers : RegisterFile} {client : Client (SlaveLink RegisterFile)}
  (faithful : transport.Faithful (slaveLine (memorySlave slaveId) delays))
  (timely : ∀ log, delays.Timely log)

include faithful timely

theorem Awaits.read_map
    (awaits : Awaits (memorySlave slaveId) true log registers [] client)
    {address count readCount : Word} {single : Bool} (values : Nat → Int)
    (counted : (if single then 1 else count) = readCount)
    (nonzero : count ≠ 0) (positive : 1 ≤ readCount.toNat)
    (few : readCount.toNat ≤ 125)
    (inside : address.toNat + readCount.toNat ≤ 65536) :
    ReadOf slaveId log registers address readCount values
      (readWriteRegistersInternal transport address values count single
        client) := by
  have answer := answerFromMap_read registers positive few inside
  have length : (registersFrom registers address readCount).length =
      readCount.toNat := by
    simp [registersFrom]
  rcases awaits.read_cases faithful address values nonzero counted few with
    ⟨words, after, answered, outcome, settled⟩ |
      ⟨after, outcome, settled, failed⟩
  · have same : registersFrom registers address readCount = words :=
      Except.ok.inj ((congrArg Prod.fst answer).symm.trans answered)
    subst same
    rw [outcome]
    constructor
    case code => rfl
    case inside =>
      intro index below
      have present : index <
          (registersFrom registers address readCount).length := by
        rw [length]
        exact below
      show storeWords _ values index = _
      rw [storeWords, if_pos present]
      simp [registersFrom, below]
    case outside =>
      intro index beyond
      have absent : ¬ index <
          (registersFrom registers address readCount).length := by
        rw [length]
        exact Nat.not_lt.mpr beyond
      exact if_neg absent
    case client =>
      have state : ((memorySlave slaveId).answer
          (.read address readCount) registers).2 = registers :=
        congrArg Prod.snd answer
      rw [answered, state] at settled
      exact settled
  · exact absurd ⟨⟨_, congrArg Prod.fst answer⟩, timely _⟩ failed

theorem Awaits.write_map
    (awaits : Awaits (memorySlave slaveId) true log registers [] client)
    (address value : Word) :
    WriteOf slaveId log registers address value
      (writeRegister transport address value client) := by
  have readBack := answerFromMap_read_one
    (Function.update registers address value) address
  rw [Function.update_self] at readBack
  have confirmed :
      Confirmed (memorySlave slaveId) address value registers :=
    ⟨⟨[value], rfl⟩, congrArg Prod.fst readBack⟩
  rcases awaits.attempt_cases faithful address value with
    ⟨after, accepted, -, settled⟩ | ⟨after, rejected, -, failed⟩
  · have outcome : writeRegister transport address value client =
        (0, after) := by
      unfold writeRegister
      rw [if_neg (not_not_intro awaits.connected)]
      show writeAttempts transport address value 3 client = _
      simp only [writeAttempts, accepted]
    have log : attemptLog (memorySlave slaveId) address value registers log =
        { request := .read address 1, answer := .ok [value] } ::
          { request := .write address value, answer := .ok [value] } ::
            log :=
      congrArg
        (fun answer : Answer =>
          ({ request := .read address 1, answer := answer } : Exchange) ::
            { request := .write address value, answer := .ok [value] } ::
              log)
        (congrArg Prod.fst readBack)
    have state : attemptState (memorySlave slaveId) address value registers =
        Function.update registers address value :=
      congrArg Prod.snd readBack
    rw [log, state] at settled
    rw [outcome]
    exact ⟨rfl, settled⟩
  · exact absurd ⟨confirmed, timely _, timely _⟩ failed

/-- Register access over any transport. -/
theorem registerAccess_of_faithful :
    RegisterAccess slaveId (readRegister transport) (readRegisters transport)
      (writeRegister transport) where
  readRegister := by
    intro log registers client awaits address values
    have below : address.toNat < 65536 := address.isLt
    exact awaits.read_map faithful timely values rfl (by decide) (by decide)
      (by decide) below
  readRegisters := by
    intro log registers client awaits address values count positive few inside
    have nonzero : count ≠ 0 := by
      rintro rfl
      exact absurd positive (by decide)
    show ReadOf slaveId log registers address count values
      (readRegisters transport address values count client)
    unfold readRegisters
    rw [if_neg nonzero]
    exact awaits.read_map faithful timely values rfl nonzero positive few inside
  writeRegister := fun awaits address value =>
    awaits.write_map faithful timely address value

end

/--
Both clients read and write correctly, for every slave, every fragmentation of
its replies and every address, value and admissible number of registers.
-/
theorem register_access (slaveId : Byte) (delays : Delays)
    (timely : ∀ log, delays.Timely log) :
    let line := slaveLine (memorySlave slaveId) delays
    RegisterAccess slaveId (modbusReadRegister line)
        (modbusReadRegisters line) (modbusWriteRegister line) ∧
      RegisterAccess slaveId (modbusSerialReadRegister line)
        (modbusSerialReadRegisters line) (modbusSerialWriteRegister line) :=
  ⟨registerAccess_of_faithful (tcpTransport_faithful _) timely,
    registerAccess_of_faithful (serialTransport_faithful _) timely⟩

/-- All bytes come at once, and are handed over one by one. -/
def bytewiseDelays : Delays where
  onFlush _ := 0
  onWait _ _ := 255
  chunk _ _ := 1

theorem register_access_bytewise :
    WriteOf 1 [] (fun _ => 0) 0x0191 450
      (modbusSerialWriteRegister
        (slaveLine (memorySlave 1) bytewiseDelays) 0x0191 450
        (freshClient (memorySlave 1) 7 fun _ => 0)) :=
  (register_access 1 bytewiseDelays fun _ _ => Nat.succ_pos 254).2.writeRegister
    (freshClient_awaits (memorySlave 1) 7 fun _ => 0) 0x0191 450

end Windmi.Modbus
