import Windmi.Core.Mirroring
import Windmi.Modbus.EndToEnd
import Windmi.Modbus.Wrappers

/-!
# The control loop over the wire

Between the control loop and the registers of the heat pump there are a
client, its frames, the line and the slave.  While the line is not late all of
this is transparent: from the connection on, the loop does over either client
exactly what it does on the registers themselves.
-/

namespace Windmi.Modbus

open Windmi.Core
open Windmi.Library

/-! ## The clients as the loop sees them -/

/-- A connection with nothing pending to a slave with these registers. -/
def Serves (slaveId : Byte) (connection : Connection (SlaveLink RegisterFile))
    (registers : RegisterFile) : Prop :=
  ∃ log, Awaits (memorySlave slaveId) true log registers [] connection.client

section

variable {slaveId : Byte} {delays : Delays}
  {transport : Transport (SlaveLink RegisterFile)}
  {connection : Connection (SlaveLink RegisterFile)}
  {registers : RegisterFile}
  (faithful : transport.Faithful (slaveLine (memorySlave slaveId) delays))
  (timely : ∀ log, delays.Timely log)

include faithful timely

/-- A read returns the contents of the register and changes nothing. -/
theorem Serves.readRegister (serves : Serves slaveId connection registers)
    (address : Address) :
    (connection.readRegister transport address).1 =
        some (registers address) ∧
      Serves slaveId (connection.readRegister transport address).2
        registers := by
  rcases serves with ⟨log, awaits⟩
  have read := (registerAccess_of_faithful faithful timely).readRegister
    awaits address fun _ => 0
  have value : BitVec.ofInt 16 ((Modbus.readRegister transport address
      (fun _ => 0) connection.client).values 0) = registers address := by
    rw [read.inside 0 (by decide)]
    simp
  constructor
  · show (if _ ≠ 0 then none else some _) = _
    rw [if_neg (not_not_intro read.code), value]
  · exact ⟨_, read.client⟩

/-- A write succeeds and changes the addressed register only. -/
theorem Serves.writeRegister (serves : Serves slaveId connection registers)
    (address : Address) (value : Word) :
    (connection.writeRegister transport address value).1 = true ∧
      Serves slaveId (connection.writeRegister transport address value).2
        (Function.update registers address value) := by
  rcases serves with ⟨log, awaits⟩
  have written := (registerAccess_of_faithful faithful timely).writeRegister
    awaits address value
  constructor
  · exact decide_eq_true written.code
  · exact ⟨_, written.client⟩

/-- A client whose reads and writes go through the transport. -/
theorem registerFile_mirrored {Device : Type} {client : IModbusClient Device}
    (embed : Connection (SlaveLink RegisterFile) → Device)
    (read : ∀ connection address,
      client.readRegister address (embed connection) =
        ((connection.readRegister transport address).1,
          embed (connection.readRegister transport address).2))
    (write : ∀ connection address value,
      client.writeRegister address value (embed connection) =
        ((connection.writeRegister transport address value).1,
          embed (connection.writeRegister transport address value).2))
    (connected : ∀ connection,
      client.isConnected (embed connection) = connection.client.connected) :
    Mirrors fullView client registerFile fun device registers =>
      ∃ connection, device = embed connection ∧
        Serves slaveId connection registers where
  read := by
    rintro _ registers ⟨connection, rfl, serves⟩ address
    rw [read]
    exact ⟨_, rfl, (serves.readRegister faithful timely address).2⟩
  control := by
    rintro _ registers ⟨connection, rfl, serves⟩ address -
    rw [read]
    exact (serves.readRegister faithful timely address).1
  critical := by
    rintro _ registers ⟨connection, rfl, serves⟩ address -
    rw [read, (serves.readRegister faithful timely address).1]
    rfl
  reads := by
    rintro _ registers ⟨connection, rfl, serves⟩ address
    rw [read, (serves.readRegister faithful timely address).1]
    rfl
  write := by
    rintro _ registers ⟨connection, rfl, serves⟩ address value
    rcases serves.writeRegister faithful timely address value with
      ⟨accepted, after⟩
    rw [write]
    exact ⟨accepted, _, rfl, after⟩
  connected := by
    rintro _ registers ⟨connection, rfl, log, awaits⟩
    exact ⟨(connected connection).trans awaits.connected, rfl⟩
  coherent := fullView_coherent

end

/-! ## Whole runs -/

/-- The line right after the slave has accepted a connection. -/
def freshLink (registers : RegisterFile) : SlaveLink RegisterFile where
  slave := registers
  pipe := Pipe.empty
  log := []
  waits := 0

/-- A client that knows its slave, and is connected to it. -/
theorem established_serves (slaveId : Byte) (registers : RegisterFile)
    {client : Client (SlaveLink RegisterFile)} (handles : Handles)
    (addressed : client.slaveId = slaveId) (opened : client.handle.isSome)
    (connected : client.connected = true)
    (slave : client.line.slave = registers) (log : client.line.log = [])
    (nothing : client.line.contents = []) :
    Serves slaveId { client := client, handles := handles } registers :=
  ⟨[], addressed, opened, connected, log, slave, nothing⟩

/-- What a run over a client has in common with one on the registers. -/
structure Transparent {Device : Type} (slaveId : Byte)
    (embed : Connection (SlaveLink RegisterFile) → Device)
    (world : World Device) (plain : World RegisterFile) : Prop where
  loop : world.loop = plain.loop
  history : world.bus.history = plain.bus.history
  device : ∃ connection, world.bus.device = embed connection ∧
    Serves slaveId connection plain.bus.device

theorem transparent_of_mirrored {Device : Type} {slaveId : Byte}
    {embed : Connection (SlaveLink RegisterFile) → Device}
    {world : World Device} {plain : World RegisterFile}
    (mirrored : Mirrored fullView (fun device registers =>
      ∃ connection, device = embed connection ∧
        Serves slaveId connection registers) world plain) :
    Transparent slaveId embed world plain where
  loop := mirrored.loop
  history := by
    have seen := mirrored.seen
    rw [fullView_seen, fullView_seen] at seen
    exact seen
  device := mirrored.device

/--
Over both clients, for every slave, every fragmentation of its replies and all
commands, a run of the loop from its connection on has the control state, the
history and the registers of a run on the registers themselves.
-/
theorem loop_over_slave (slaveId : Byte) (delays : Delays)
    (timely : ∀ log, delays.Timely log) (registers : RegisterFile)
    (loop : ControlLoop) (batches : List (List Command)) :
    let line := slaveLine (memorySlave slaveId) delays
    let opening := Opening.established (freshLink registers)
    let created := Connection.create slaveId (freshLink fun _ => 0)
    let tcp := modbusClient line opening
    let serial := modbusSerialClient line opening
    let plain := threadRun registerFile loop registers batches
    Transparent slaveId some
        (threadRun tcp loop (tcp.connect (some created)).2 batches) plain ∧
      Transparent slaveId id
        (threadRun serial loop (serial.connect created).2 batches) plain := by
  intro line opening created tcp serial plain
  have overTcp := @registerFile_mirrored slaveId delays _
    (tcpTransport_faithful _) timely _ tcp some (fun _ _ => rfl)
    (fun _ _ _ => rfl) fun _ => rfl
  have overSerial := @registerFile_mirrored slaveId delays _
    (serialTransport_faithful _) timely _ serial id (fun _ _ => rfl)
    (fun _ _ _ => rfl) fun _ => rfl
  have flushed : ((freshLink registers).flush delays).contents = [] :=
    Pipe.contents_discard_of_empty _ (Pipe.contents_deliver ..)
  have tcpStart : ∃ connection,
      (tcp.connect (some created)).2 = some connection ∧
        Serves slaveId connection registers :=
    ⟨_, rfl, established_serves slaveId registers _ rfl rfl rfl rfl rfl rfl⟩
  have serialStart : ∃ connection,
      (serial.connect created).2 = connection ∧
        Serves slaveId connection registers :=
    ⟨_, rfl, established_serves slaveId registers _ rfl rfl rfl rfl rfl
      flushed⟩
  have tcpRun := overTcp.threadRun tcpStart loop batches
  have serialRun := overSerial.threadRun serialStart loop batches
  exact ⟨transparent_of_mirrored tcpRun, transparent_of_mirrored serialRun⟩

/-- A slave whose replies come byte by byte. -/
theorem loop_over_slave_bytewise :
    let line := slaveLine (memorySlave 11) bytewiseDelays
    let opening := Opening.established (freshLink fun _ => 215)
    let created := Connection.create 11 (freshLink fun _ => 0)
    let tcp := modbusClient line opening
    let serial := modbusSerialClient line opening
    let batches := [[{ type := .setDhwTemp, floatVal := 50 }], []]
    let plain := threadRun registerFile {} (fun _ => 215) batches
    Transparent 11 some
        (threadRun tcp {} (tcp.connect (some created)).2 batches) plain ∧
      Transparent 11 id
        (threadRun serial {} (serial.connect created).2 batches) plain :=
  loop_over_slave 11 bytewiseDelays (fun _ _ => Nat.succ_pos 254)
    (fun _ => 215) {} [[{ type := .setDhwTemp, floatVal := 50 }], []]

end Windmi.Modbus
