import Windmi.Library.Truncation
import Windmi.Modbus.Connection

/-!
# The implementations of the client interface

`ModbusClient` and `ModbusSerialClient` wrap the two C clients, and
`SimulatedModbusClient` stands for a device in demo mode.  Each is given with
what its surroundings bring to the next call: what comes of opening a socket
or a port, or the time since the call before.
-/

namespace Windmi.Modbus

open Windmi.Core
open Windmi.Library

variable {σ : Type}

/-! ## Reading and writing through a C client -/

/-- A failure of the C client becomes an exception. -/
def Connection.readRegister (transport : Transport σ) (address : Address)
    (connection : Connection σ) : Option Word × Connection σ :=
  let read :=
    Modbus.readRegister transport address (fun _ => 0) connection.client
  (if read.code ≠ 0 then none else some (BitVec.ofInt 16 (read.values 0)),
    { connection with client := read.client })

def Connection.writeRegister (transport : Transport σ) (address : Address)
    (value : Word) (connection : Connection σ) : Bool × Connection σ :=
  let written :=
    Modbus.writeRegister transport address value connection.client
  (written.1 = 0, { connection with client := written.2 })

/-! ## `ModbusClient` -/

/--
The C client behind a `ModbusClient`, unless its pointer is null.  To
disconnect destroys the C client, and nothing creates another.
-/
def modbusClient (line : Line σ) (opening : Opening σ) :
    IModbusClient (Option (Connection σ)) where
  connect
    | none => (false, none)
    | some connection =>
        let connected := modbusClientConnect opening connection
        (connected.1, some connected.2)
  disconnect _ := none
  isConnected
    | none => false
    | some connection => connection.client.connected
  readRegister
    | _, none => (none, none)
    | address, some connection =>
        let read := connection.readRegister (tcpTransport line) address
        (read.1, some read.2)
  writeRegister
    | _, _, none => (false, none)
    | address, value, some connection =>
        let written :=
          connection.writeRegister (tcpTransport line) address value
        (written.1, some written.2)
  flushBuffer connection := connection.map (modbusClientFlushBuffer line)

/-! ## `ModbusSerialClient` -/

/-- The C client behind a `ModbusSerialClient` lives as long as the wrapper. -/
def modbusSerialClient (line : Line σ) (opening : Opening σ) :
    IModbusClient (Connection σ) where
  connect := modbusSerialClientConnect line opening
  disconnect := modbusSerialClientDisconnect
  isConnected connection := connection.client.connected
  readRegister address connection :=
    connection.readRegister (serialTransport line) address
  writeRegister address value connection :=
    connection.writeRegister (serialTransport line) address value
  flushBuffer := modbusSerialFlushBuffer line

/-! ## `SimulatedModbusClient` -/

/-- The values of the running mode and status of a unit that cools. -/
def modeSetCoolDhw : Int := 1
def modeStatusCool : Int := 1
def modeStatusHeat : Int := 2

structure SimulatedDevice where
  registers : Address → Option Word
  connected : Bool

/-- A register as a signed number; one that is missing is created as zero. -/
def registerValue (registers : Address → Option Word) (address : Address) :
    Int :=
  ((registers address).getD 0).toInt

def storeValue (address : Address) (value : Int)
    (registers : Address → Option Word) : Address → Option Word :=
  Function.update registers address (some (BitVec.ofInt 16 value))

/-- The constructor of `SimulatedModbusClient`. -/
def SimulatedDevice.create : SimulatedDevice where
  connected := false
  registers := ([
    (regUnitCapacity, 8),
    (regOutdoorTemp, 120),
    (regIndoorTemp, 210),
    (regEnteringWaterTemp, 320),
    (regLeavingWaterTemp, 350),
    (regRunningMode, modeSetHeatDhw),
    (regRunningStatus, modeStatusHeat),
    (regDhwTarget, 460),
    (regHeatingTarget, 450),
    (regDhwTankTemp, 420),
    (regDhwPriority, 1),
    (regAcCurrent, 3),
    (regDcCurrent, 2),
    (regAcVoltage, 230),
    (regDcVoltage, 700)] : List (Address × Int)).foldl
      (fun registers entry => storeValue entry.1 entry.2 registers)
      fun _ => none

def ambientTemp : Int := 200

def driftToAmbient (drift value : Int) : Int :=
  if value > ambientTemp then
    if value - drift < ambientTemp then ambientTemp else value - drift
  else
    if value + drift > ambientTemp then ambientTemp else value + drift

/-- A narrowing conversion to `int16_t`. -/
def toInt16 (value : Int) : Int :=
  (BitVec.ofInt 16 value).toInt

/-- The branch of `updateSimulationLocked` for a unit that is off. -/
def simulateOff (elapsed : ℚ) (registers : Address → Option Word) :
    Address → Option Word :=
  let drift := toInt16 (truncate (elapsed * 20))
  let leaving := registerValue registers regLeavingWaterTemp
  let dhw := registerValue registers regDhwTankTemp
  let indoor := registerValue registers regIndoorTemp
  let outdoor := registerValue registers regOutdoorTemp
  storeValue regRunningStatus modeStatusOff
    (storeValue regOutdoorTemp
      (driftToAmbient (toInt16 (drift.tdiv 2)) outdoor)
      (storeValue regIndoorTemp (driftToAmbient drift indoor)
        (storeValue regDhwTankTemp (driftToAmbient drift dhw)
          (storeValue regLeavingWaterTemp (driftToAmbient drift leaving)
            registers))))

/-- The branch for a unit that heats or cools. -/
def simulateRunning (elapsed : ℚ) (runningMode : Int)
    (registers : Address → Option Word) : Address → Option Word :=
  let leaving := registerValue registers regLeavingWaterTemp
  let target := registerValue registers regHeatingTarget
  let diff := toInt16 (target - leaving)
  let step := toInt16 (truncate (elapsed * diff * (1 / 5)))
  storeValue regRunningStatus
    (if runningMode = modeSetHeatDhw then modeStatusHeat else modeStatusCool)
    (storeValue regLeavingWaterTemp (leaving + step) registers)

/-- The time in seconds since the last update is exact here. -/
def updateSimulationLocked (elapsed : ℚ)
    (registers : Address → Option Word) : Address → Option Word :=
  if elapsed < 1 / 10 then
    registers
  else
    let runningMode := registerValue registers regRunningMode
    let simulated :=
      if runningMode = modeSetOff then
        simulateOff elapsed registers
      else if runningMode = modeSetHeatDhw ∨ runningMode = modeSetCoolDhw then
        simulateRunning elapsed runningMode registers
      else
        registers
    if registerValue simulated regRunningStatus = modeStatusOff then
      storeValue regDcCurrent 0 (storeValue regAcCurrent 0 simulated)
    else
      simulated

def simulatedModbusClient (elapsed : ℚ) : IModbusClient SimulatedDevice where
  connect device := (true, { device with connected := true })
  disconnect device := { device with connected := false }
  isConnected device := device.connected
  readRegister address device :=
    if ¬ device.connected then
      (none, device)
    else
      let registers := updateSimulationLocked elapsed device.registers
      (registers address, { device with registers := registers })
  writeRegister address value device :=
    if ¬ device.connected then
      (false, device)
    else
      let registers := updateSimulationLocked elapsed device.registers
      (true,
        { device with
          registers := Function.update registers address (some value) })
  flushBuffer device := device

/-! ## Calls -/

/-- A call of the interface. -/
inductive ClientCall where
  | connect
  | disconnect
  | readRegister (address : Address)
  | writeRegister (address : Address) (value : Word)
  | flushBuffer
  deriving DecidableEq, Repr

/-- What a call leaves of the device, whether it throws or not. -/
def ClientCall.run {Device : Type} (client : IModbusClient Device)
    (device : Device) : ClientCall → Device
  | .connect => (client.connect device).2
  | .disconnect => client.disconnect device
  | .readRegister address => (client.readRegister address device).2
  | .writeRegister address value =>
      (client.writeRegister address value device).2
  | .flushBuffer => client.flushBuffer device

/-- A call, together with what its surroundings bring. -/
def ClientCall.step {Device Surroundings : Type}
    (client : Surroundings → IModbusClient Device) (device : Device)
    (call : Surroundings × ClientCall) : Device :=
  call.2.run (client call.1) device

end Windmi.Modbus
