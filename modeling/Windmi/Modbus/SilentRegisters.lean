import Windmi.Core.SnapshotFields
import Windmi.Modbus.Exchanges
import Windmi.Modbus.ReplyLink
import Windmi.Modbus.Wrappers

/-!
# Registers that are not answered

A slave answers the reads of its registers but leaves some without a reply.
`readStatus` tolerates a failure of any register that is not critical, but the
clients below it take a missing reply for the loss of the connection, so that
every read after the first silent register fails as well.
-/

namespace Windmi.Modbus

open Windmi.Core
open Windmi.Library

/-! ## A poll that loses its connection -/

/-- The registers which are read before the first silent one. -/
def answeredRegisters (silent : Finset Address)
    (addresses : List Address) : List Address :=
  addresses.takeWhile (· ∉ silent)

/-- The contents of some registers, and nothing of the others. -/
def contentsOf (registers : RegisterFile) (answered : List Address) :
    Outcomes :=
  fun address =>
    if answered.contains address then some (registers address) else none

/--
What reads do to a device: while it is up they return the contents of
registers that are not silent, and it goes down for good with the first one
that is.
-/
structure Silences {Device : Type}
    (readRegister : Address → Device → Option Word × Device)
    (registers : RegisterFile) (silent : Finset Address)
    (up down : Device → Prop) : Prop where
  answers : ∀ address device, up device → address ∉ silent →
    ∃ after,
      readRegister address device = (some (registers address), after) ∧
        up after
  loses : ∀ address device, up device → address ∈ silent →
    ∃ after, readRegister address device = (none, after) ∧ down after
  stays : ∀ address device, down device →
    ∃ after, readRegister address device = (none, after) ∧ down after

section

variable {Device : Type} {client : IModbusClient Device}
  {registers : RegisterFile} {silent : Finset Address}
  {up down : Device → Prop}
  (silences : Silences client.readRegister registers silent up down)

include silences

theorem Silences.readAll_down (addresses : List Address) {device : Device}
    (lost : down device) :
    (readAll client addresses device).1 = fun _ => none := by
  induction addresses generalizing device with
  | nil => rfl
  | cons address addresses ih =>
      rcases silences.stays address device lost with ⟨after, failed, still⟩
      simp only [readAll, failed, ih still, Function.update_eq_self]

/-- The reads of a poll find the contents up to the first silent register. -/
theorem Silences.readAll_up (addresses : List Address) {device : Device}
    (live : up device) :
    (readAll client addresses device).1 =
      contentsOf registers (answeredRegisters silent addresses) := by
  induction addresses generalizing device with
  | nil => rfl
  | cons address addresses ih =>
      by_cases mute : address ∈ silent
      · rcases silences.loses address device live mute with
          ⟨after, failed, lost⟩
        have nothing : answeredRegisters silent (address :: addresses) = [] := by
          simp [answeredRegisters, mute]
        simp only [readAll, failed, silences.readAll_down addresses lost,
          nothing, Function.update_eq_self]
        funext other
        simp [contentsOf]
      · rcases silences.answers address device live mute with
          ⟨after, answered, still⟩
        have more : answeredRegisters silent (address :: addresses) =
            address :: answeredRegisters silent addresses := by
          simp [answeredRegisters, mute]
        simp only [readAll, answered, ih still, more]
        funext other
        by_cases same : other = address
        · subst same
          simp [contentsOf]
        · simp [contentsOf, same]

end

/-! ## What is left of a poll -/

/-- Every field whose register is not silent carries its register. -/
def CarriesOthers (registers : RegisterFile) (silent : Finset Address)
    (status : StatusSnapshot) : Prop :=
  ∀ field ∈ snapshotFields, field.address ∉ silent →
    field.value status = field.decode (registers field.address)

/--
A register which is polled after the first silent one is either silent itself,
or not critical and what its field falls back to happens to be its value.
-/
def Dispensable (registers : RegisterFile) (silent : Finset Address)
    (loop : ControlLoop) (status : StatusSnapshot) : Prop :=
  ∀ field ∈ snapshotFields, field.address ∉ silent →
    field.address ∉ answeredRegisters silent polledRegisters →
      field.address ∉ criticalRegisters ∧
        field.fallback loop status = field.decode (registers field.address)

theorem pollOk_contentsOf_iff (registers : RegisterFile)
    (answered : List Address) :
    pollOk (contentsOf registers answered) = true ↔
      ∀ address ∈ criticalRegisters, address ∈ answered := by
  rw [pollOk, List.all_eq_true]
  refine forall_congr' fun address => forall_congr' fun _ => ?_
  by_cases inside : address ∈ answered <;> simp [contentsOf, inside]

/-- A poll whose reads find the contents up to the first silent register. -/
theorem silent_poll_iff {registers : RegisterFile} {silent : Finset Address}
    (tolerable : ∀ address ∈ silent, address ∉ criticalRegisters)
    (status : StatusSnapshot) (loop : ControlLoop) :
    let outcome := contentsOf registers
      (answeredRegisters silent polledRegisters)
    (pollOk outcome = true ∧
        CarriesOthers registers silent
          (pollFrame outcome status loop).status) ↔
      Dispensable registers silent loop status := by
  intro outcome
  rw [pollOk_contentsOf_iff]
  constructor
  · rintro ⟨complete, carries⟩ field member loud unanswered
    refine ⟨fun critical => unanswered (complete _ critical), ?_⟩
    have carried := carries field member loud
    rw [pollFrame_field member] at carried
    simpa [outcome, contentsOf, unanswered] using carried
  · intro dispensable
    constructor
    · intro address critical
      rcases mem_polledRegisters_iff.mp
          (criticalRegisters_polled address critical) with
        ⟨field, member, rfl⟩
      by_contra unanswered
      have loud : field.address ∉ silent :=
        fun mute => tolerable _ mute critical
      exact (dispensable field member loud unanswered).1 critical
    · intro field member loud
      rw [pollFrame_field member]
      by_cases answered :
          field.address ∈ answeredRegisters silent polledRegisters
      · simp [outcome, contentsOf, answered]
      · simpa [outcome, contentsOf, answered] using
          (dispensable field member loud answered).2

/-- A poll of any client below which reads go silent. -/
theorem Silences.readStatus_iff {Device : Type}
    {client : IModbusClient Device} {registers : RegisterFile}
    {silent : Finset Address} {up down : Device → Prop}
    (silences : Silences client.readRegister registers silent up down)
    (tolerable : ∀ address ∈ silent, address ∉ criticalRegisters)
    (status : StatusSnapshot) {world : World Device}
    (live : up world.bus.device) :
    ((readStatus client status world).ok = true ∧
        CarriesOthers registers silent
          (readStatus client status world).status) ↔
      Dispensable registers silent world.loop status := by
  have poll := @silent_poll_iff registers silent tolerable status world.loop
  rw [readStatus_spec]
  simp only [pollWith, pollReads, silences.readAll_up polledRegisters live]
  exact poll

/-! ## Clients of a slave with silent registers -/

/-- A slave with fixed contents, which does not answer some reads. -/
def silentReplies (slaveId : Byte) (registers : RegisterFile)
    (silent : Finset Address) : Responses := fun _ frame =>
  match parseRequest slaveId frame with
  | some (.read address count) =>
      if address ∈ silent then []
      else
        replyFrame slaveId (.read address count)
          (answerFromMap (.read address count) registers).1
  | some (.write address value) =>
      replyFrame slaveId (.write address value)
        (answerFromMap (.write address value) registers).1
  | none => []

/-- A connected client with an open socket or port. -/
def Up (slaveId : Byte) (connection : Connection ReplyLink) : Prop :=
  ∃ pending overreached,
    Listens slaveId true pending overreached connection.client

def Down (connection : Connection ReplyLink) : Prop :=
  connection.client.connected = false

section

variable {slaveId : Byte} {registers : RegisterFile}
  {silent : Finset Address} {portion : Nat → Nat}

theorem silentReplies_silent {address : Address} (mute : address ∈ silent)
    (requests : Nat) :
    silentReplies slaveId registers silent requests
      (modbusRtuBuildReadFrame slaveId address 1) = [] := by
  simp [silentReplies, mute]

theorem silentReplies_loud {address : Address} (loud : address ∉ silent)
    (requests : Nat) :
    silentReplies slaveId registers silent requests
        (modbusRtuBuildReadFrame slaveId address 1) =
      replyFrame slaveId (.read address 1) (.ok [registers address]) := by
  have answered : (answerFromMap (.read address 1) registers).1 =
      .ok [registers address] := by
    have below := address.isLt
    simp only [answerFromMap]
    rw [if_neg (by decide), if_neg (by
      show ¬ 65536 < address.toNat + 1
      omega)]
    simp
  simp only [silentReplies, parseRequest_read, if_neg loud, answered]

variable {transport : Transport ReplyLink}
  (faithful : transport.Faithful
    (replyLine (silentReplies slaveId registers silent) portion))

include faithful

/-- A read of a register that is answered returns its contents. -/
theorem Listens.read_loud {client : Client ReplyLink} {pending : List Byte}
    {overreached : Bool}
    (listens : Listens slaveId true pending overreached client)
    {address : Address} (loud : address ∉ silent) (values : Nat → Int) :
    ∃ after,
      Modbus.readRegister transport address values client =
          { code := 0
            values := storeWords [registers address] values
            client := after } ∧
        Listens slaveId true [] overreached after := by
  rcases replyFrame_words slaveId address 1 [registers address] with
    ⟨low, high, framed, check⟩
  rw [framed] at check
  have answer : silentReplies slaveId registers silent client.line.requests
      (modbusRtuBuildReadFrame client.slaveId address 1) =
        [slaveId, 0x03, 2] ++
          (bigEndian [registers address] ++ [low, high]) := by
    rw [listens.slaveId, silentReplies_loud loud]
    exact framed
  have begins := @Listens.read_begins _ _ _ _ _ _ _ faithful listens address
    values 1 1 true (by decide) rfl
  simp only [answer] at begins
  rcases begins with ⟨short, -⟩ | ⟨-, headed, result, -, remaining⟩
  · exact absurd short (by simp)
  · have four : (4 : Nat) ≤ (bigEndian [registers address] ++
        [low, high]).length :=
      le_refl 4
    rcases remaining.receive faithful (by decide) four with
      ⟨after, received, -, settled⟩
    refine ⟨after, ?_, settled⟩
    refine result.trans ?_
    change receiveReply transport 1 values [slaveId, 0x03, 2] headed = _
    have own : byteAt [slaveId, 0x03, 2] 0 = headed.slaveId :=
      remaining.slaveId.symm
    have regular : ¬ byteAt [slaveId, 0x03, 2] 1 &&& 0x80 ≠ 0 := by
      show ¬ (0x03 : Byte) &&& 0x80 ≠ 0
      decide
    have counted : ¬ (byteAt [slaveId, 0x03, 2] 2).toNat ≠
        (1 : Word).toNat * 2 := by
      show ¬ (2 : Byte).toNat ≠ (1 : Word).toNat * 2
      decide
    unfold receiveReply
    rw [if_neg (not_not_intro own), if_neg regular, if_neg counted]
    change receiveOrDrop transport 4 values headed _ = _
    rw [receiveOrDrop]
    change transport.receiveExact 4 headed =
      (some (bigEndian [registers address] ++ [low, high]), after) at received
    rw [received]
    exact decodeReply_words rfl values check after

/-- A read of a silent register loses the connection. -/
theorem Listens.read_silent {client : Client ReplyLink}
    {pending : List Byte} {overreached : Bool}
    (listens : Listens slaveId true pending overreached client)
    {address : Address} (mute : address ∈ silent) (values : Nat → Int) :
    ∃ after,
      Modbus.readRegister transport address values client =
          { code := -1, values := values, client := after } ∧
        after.connected = false := by
  have nothing : silentReplies slaveId registers silent client.line.requests
      (modbusRtuBuildReadFrame client.slaveId address 1) = [] := by
    rw [listens.slaveId]
    exact silentReplies_silent mute _
  have begins := @Listens.read_begins _ _ _ _ _ _ _ faithful listens address
    values 1 1 true (by decide) rfl
  simp only [nothing] at begins
  rcases begins with ⟨-, after, result, -⟩ | ⟨enough, -⟩
  · exact ⟨after.drop, result, rfl⟩
  · exact absurd enough (by simp)

/-- Either C client goes down with the first silent register. -/
theorem connection_silences :
    Silences (Connection.readRegister transport) registers silent
      (Up slaveId) Down where
  answers := by
    rintro address connection ⟨pending, overreached, listens⟩ loud
    rcases listens.read_loud faithful loud (fun _ => 0) with
      ⟨after, read, settled⟩
    refine ⟨{ connection with client := after }, ?_, _, _, settled⟩
    simp only [Connection.readRegister, read]
    simp [storeWords]
  loses := by
    rintro address connection ⟨pending, overreached, listens⟩ mute
    rcases listens.read_silent faithful mute (fun _ => 0) with
      ⟨after, read, lost⟩
    refine ⟨{ connection with client := after }, ?_, lost⟩
    simp only [Connection.readRegister, read]
    simp
  stays := by
    intro address connection down
    refine ⟨connection, ?_, down⟩
    simp only [Connection.readRegister, readRegister_disconnected down]
    simp

end

/-- What goes for the C client goes for the wrapper around it. -/
theorem Silences.modbusClient {line : Line ReplyLink}
    {opening : Opening ReplyLink} {registers : RegisterFile}
    {silent : Finset Address} {up down : Connection ReplyLink → Prop}
    (silences : Silences (Connection.readRegister (tcpTransport line))
      registers silent up down) :
    Silences (Modbus.modbusClient line opening).readRegister registers silent
      (fun client => ∃ connection, client = some connection ∧ up connection)
      (fun client => ∃ connection, client = some connection ∧
        down connection) where
  answers := by
    rintro address _ ⟨connection, rfl, live⟩ loud
    rcases silences.answers address connection live loud with
      ⟨after, read, still⟩
    refine ⟨some after, ?_, after, rfl, still⟩
    simp only [Modbus.modbusClient, read]
  loses := by
    rintro address _ ⟨connection, rfl, live⟩ mute
    rcases silences.loses address connection live mute with
      ⟨after, read, lost⟩
    refine ⟨some after, ?_, after, rfl, lost⟩
    simp only [Modbus.modbusClient, read]
  stays := by
    rintro address _ ⟨connection, rfl, lost⟩
    rcases silences.stays address connection lost with ⟨after, read, still⟩
    refine ⟨some after, ?_, after, rfl, still⟩
    simp only [Modbus.modbusClient, read]

/-! ## Polls over both clients -/

/-- The world of a control loop with some device. -/
def worldOf {Device : Type} (loop : ControlLoop) (device : Device)
    (history : List Event) : World Device where
  loop := loop
  bus := { device := device, history := history }

/--
A poll over a connected client of either kind succeeds and carries every
register that is answered, exactly if what is polled after the first silent
register can be dispensed with.
-/
theorem silent_registers_tolerated_iff {slaveId : Byte}
    (registers : RegisterFile) {silent : Finset Address}
    (tolerable : ∀ address ∈ silent, address ∉ criticalRegisters)
    (portion : Nat → Nat) (opening : Opening ReplyLink)
    {connection : Connection ReplyLink}
    (connected : connection.client.connected = true)
    (opened : connection.client.handle.isSome)
    (addressed : connection.client.slaveId = slaveId)
    (status : StatusSnapshot) (loop : ControlLoop) (history : List Event) :
    let line := replyLine (silentReplies slaveId registers silent) portion
    let tcp := readStatus (modbusClient line opening) status
      (worldOf loop (some connection) history)
    let serial := readStatus (modbusSerialClient line opening) status
      (worldOf loop connection history)
    ((tcp.ok = true ∧ CarriesOthers registers silent tcp.status) ↔
        Dispensable registers silent loop status) ∧
      ((serial.ok = true ∧ CarriesOthers registers silent serial.status) ↔
        Dispensable registers silent loop status) := by
  intro line tcp serial
  have up : Up slaveId connection :=
    ⟨_, _, addressed, opened, connected, rfl, rfl⟩
  have beneath : Silences (Connection.readRegister (tcpTransport line))
      registers silent (Up slaveId) Down :=
    connection_silences (tcpTransport_faithful line)
  have overTcp := @Silences.modbusClient line opening _ _ _ _ beneath
  have overSerial : Silences (modbusSerialClient line opening).readRegister
      registers silent (Up slaveId) Down :=
    connection_silences (serialTransport_faithful line)
  exact
    ⟨overTcp.readStatus_iff tolerable status ⟨connection, rfl, up⟩,
      overSerial.readStatus_iff tolerable status up⟩

/-! ## Two slaves -/

/-- The line of a slave whose registers all hold 215. -/
def mutedLine (silent : Finset Address) : Line ReplyLink :=
  replyLine (silentReplies 11 (fun _ => 215) silent) fun _ => 1

def mutedConnection : Connection ReplyLink where
  client := listeningClient 11 3 []
  handles := {}

/-- The registers which are polled last. -/
def runtimeRegisters : Finset Address :=
  {regCompressorRuntime, regPumpRuntime}

theorem silent_registers_tolerated_runtimes :
    let serial := readStatus
      (modbusSerialClient (mutedLine runtimeRegisters) .unavailable) {}
      (worldOf {} mutedConnection [])
    serial.ok = true ∧
      CarriesOthers (fun _ => 215) runtimeRegisters serial.status := by
  have covered : polledRegisters ⊆
      answeredRegisters runtimeRegisters polledRegisters ++
        [regCompressorRuntime, regPumpRuntime] := by
    rw [polledRegisters_eq]
    decide +kernel
  refine (@silent_registers_tolerated_iff 11 (fun _ => 215) runtimeRegisters
    ?_ (fun _ => 1) .unavailable mutedConnection rfl rfl rfl {} {}
    []).2.mpr ?_
  · intro address silent
    simp only [runtimeRegisters, Finset.mem_insert,
      Finset.mem_singleton] at silent
    rcases silent with rfl | rfl
    · decide
    · decide
  · intro field member loud unanswered
    have polled := covered (mem_polledRegisters_iff.mpr ⟨field, member, rfl⟩)
    rcases List.mem_append.mp polled with answered | last
    · exact absurd answered unanswered
    · exact absurd (by simpa [runtimeRegisters] using last) loud

/-- A slave without an indoor sensor takes the device offline. -/
theorem silent_indoor_register_offline :
    (readStatus (modbusClient (mutedLine {regIndoorTemp}) .unavailable) {}
        (worldOf {} (some mutedConnection) [])).ok = false ∧
      (readStatus (modbusSerialClient (mutedLine {regIndoorTemp})
          .unavailable) {} (worldOf {} mutedConnection [])).ok = false := by
  constructor
  · decide +kernel
  · decide +kernel

end Windmi.Modbus
