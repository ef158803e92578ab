import Windmi.Core.ControlLoop

/-!
# Polling the device

`ControlLoop::readStatus` is a sequence of blocks.  Most are a `try` around
one register read whose value goes into the snapshot, with a `catch` which
either marks the poll as failed, substitutes a default or keeps what is there;
two compute derived values and the last one concludes the poll.  A block is
modelled by what it does to a `Frame`, the local state of the function, and
`readStatus` runs the blocks in the order of the source.
-/

namespace Windmi.Core

open Windmi.Modbus

/-- The members and local variables which `readStatus` works on. -/
structure Frame where
  loop : ControlLoop
  status : StatusSnapshot
  ok : Bool := true
  acCurrent : ℚ := 0
  acVoltage : ℚ := 0
  gotCurrent : Bool := false
  gotVoltage : Bool := false

/-- A step of `readStatus`. -/
inductive Block where
  | poll (address : Address) (success : Word → Frame → Frame)
      (failure : Frame → Frame)
  | compute (update : Frame → Frame)

variable {Device : Type}

def Block.run (client : IModbusClient Device) (block : Block)
    (state : Frame × Bus Device) : Frame × Bus Device :=
  match block with
  | .poll address success failure =>
      let answer := state.2.readRegister client address
      match answer.1 with
      | some raw => (success raw state.1, answer.2)
      | none => (failure state.1, answer.2)
  | .compute update => (update state.1, state.2)

/--
The common shape of a block: on success the value is stored in the snapshot;
on failure the snapshot gets a default, and a critical register fails the poll.
-/
def Block.status (address : Address) (critical : Bool)
    (success : Word → StatusSnapshot → StatusSnapshot)
    (failure : StatusSnapshot → StatusSnapshot) : Block :=
  .poll address
    (fun raw frame => { frame with status := success raw frame.status })
    (fun frame =>
      { frame with
        status := failure frame.status
        ok := frame.ok && !critical })

/-! ## Temperatures, mode and targets -/

def readOutdoorTemp : Block :=
  .status regOutdoorTemp true
    (fun raw status => { status with outdoorTemp := rawToTemp raw }) id

def readIndoorTemp : Block :=
  .status regIndoorTemp false
    (fun raw status => { status with indoorTemp := rawToTemp raw }) id

def readLeavingWaterTemp : Block :=
  .status regLeavingWaterTemp true
    (fun raw status => { status with leavingWaterTemp := rawToTemp raw }) id

def readEnteringWaterTemp : Block :=
  .status regEnteringWaterTemp false
    (fun raw status => { status with enteringWaterTemp := rawToTemp raw }) id

def readDhwTankTemp : Block :=
  .status regDhwTankTemp true
    (fun raw status => { status with dhwTankTemp := rawToTemp raw }) id

/-- The shadow mode follows the device for the three modes it may set. -/
def observeRunningMode (raw : Word) (loop : ControlLoop) : ControlLoop :=
  if raw.toInt = 0 ∨ raw.toInt = 1 ∨ raw.toInt = 2 then
    { loop with currentMode := raw.toInt }
  else
    loop

def readRunningMode : Block :=
  .poll regRunningMode
    (fun raw frame =>
      { frame with
        status := { frame.status with runningMode := raw.toInt }
        loop := observeRunningMode raw frame.loop })
    (fun frame => { frame with ok := false })

def readRunningStatus : Block :=
  .status regRunningStatus true
    (fun raw status =>
      { status with
        runningStatus := raw.toInt
        isRunning := raw.toInt ≠ modeStatusOff }) id

/-- Until a poll has succeeded, the saved target follows the device. -/
def observeDhwTarget (raw : Word) (loop : ControlLoop) : ControlLoop :=
  if loop.savedTargetsInitialized then
    loop
  else
    { loop with savedDhwTarget := rawToTemp raw }

def readDhwTarget : Block :=
  .poll regDhwTarget
    (fun raw frame =>
      { frame with
        status := { frame.status with dhwTarget := rawToTemp raw }
        loop := observeDhwTarget raw frame.loop })
    (fun frame => { frame with ok := false })

def observeHeatingTarget (raw : Word) (loop : ControlLoop) : ControlLoop :=
  let loop := { loop with lastHeatingTarget := rawToTemp raw }
  if loop.savedTargetsInitialized then
    loop
  else
    { loop with savedHeatingTarget := rawToTemp raw }

/-- A heating target that cannot be read is reported as it was last known. -/
def readHeatingTarget : Block :=
  .poll regHeatingTarget
    (fun raw frame =>
      { frame with
        status := { frame.status with heatingTarget := rawToTemp raw }
        loop := observeHeatingTarget raw frame.loop })
    (fun frame =>
      { frame with
        status :=
          { frame.status with
            heatingTarget := frame.loop.lastHeatingTarget } })

/-- The priority register is read for the status report only. -/
def readDhwPriority : Block :=
  .status regDhwPriority true
    (fun raw status => { status with dhwPriority := raw.toInt ≠ 0 }) id

def readOccupancyMode : Block :=
  .status regOccupancyMode false
    (fun raw status => { status with occupancyMode := raw.toInt }) id

/-! ## Power monitoring -/

def readAcCurrent : Block :=
  .poll regAcCurrent
    (fun raw frame =>
      { frame with
        status := { frame.status with acCurrent := (raw.toInt : ℚ) * 2 }
        acCurrent := (raw.toInt : ℚ) * 2
        gotCurrent := true })
    (fun frame =>
      { frame with status := { frame.status with acCurrent := 0 } })

def readDcCurrent : Block :=
  .status regDcCurrent false
    (fun raw status => { status with dcCurrent := (raw.toInt : ℚ) * 4 })
    (fun status => { status with dcCurrent := 0 })

def readAcVoltage : Block :=
  .poll regAcVoltage
    (fun raw frame =>
      { frame with
        status := { frame.status with acVoltage := (raw.toInt : ℚ) }
        acVoltage := (raw.toInt : ℚ)
        gotVoltage := true })
    (fun frame =>
      { frame with status := { frame.status with acVoltage := 0 } })

def readDcVoltage : Block :=
  .status regDcVoltage false
    (fun raw status => { status with dcVoltage := (raw.toInt : ℚ) / 2 })
    (fun status => { status with dcVoltage := 0 })

/-- Power needs both the current and the voltage. -/
def calculatePower : Block :=
  .compute fun frame =>
    if frame.gotCurrent && frame.gotVoltage then
      { frame with
        status :=
          { frame.status with
            acPowerVa := frame.acVoltage * frame.acCurrent
            acPowerW :=
              frame.acVoltage * frame.acCurrent * estimatedPowerFactor
            powerValid := true } }
    else
      { frame with
        status :=
          { frame.status with
            acPowerVa := 0
            acPowerW := 0
            powerValid := false } }

/-! ## Diagnostics -/

def readUnitCapacity : Block :=
  .status regUnitCapacity false
    (fun raw status => { status with unitCapacityKw := raw.toInt })
    (fun status => { status with unitCapacityKw := 0 })

def readCompressorFreq : Block :=
  .status regCompressorFreq false
    (fun raw status => { status with compressorFreq := (raw.toInt : ℚ) })
    (fun status => { status with compressorFreq := 0 })

def readWaterFlow : Block :=
  .status regWaterFlow false
    (fun raw status => { status with waterFlow := (raw.toInt : ℚ) / 100 })
    (fun status => { status with waterFlow := 0 })

def readActualCapacityOutput : Block :=
  .status regActualCapacityOutput false
    (fun raw status => { status with actualCapacityOutput := raw.toInt })
    (fun status => { status with actualCapacityOutput := 0 })

def readDhwValveStatus : Block :=
  .status regDhwValveStatus false
    (fun raw status => { status with dhwValveStatus := raw.toInt })
    (fun status => { status with dhwValveStatus := -1 })

def readDhwModeStatus : Block :=
  .status regDhwModeStatus false
    (fun raw status => { status with dhwModeStatus := raw.toInt })
    (fun status => { status with dhwModeStatus := -1 })

def readOduInputStatus : Block :=
  .status regOduInputStatus false
    (fun raw status => { status with oduInputStatus := raw.toInt })
    (fun status => { status with oduInputStatus := 0 })

def readCompressorRuntime : Block :=
  .status regCompressorRuntime false
    (fun raw status => { status with compressorRuntimeH := raw.toInt })
    (fun status => { status with compressorRuntimeH := 0 })

def readPumpRuntime : Block :=
  .status regPumpRuntime false
    (fun raw status => { status with pumpRuntimeH := raw.toInt })
    (fun status => { status with pumpRuntimeH := 0 })

/-! ## Derived values and conclusion -/

/-- The heat carried by the water flow, in watts. -/
def heatOutput (status : StatusSnapshot) : ℚ :=
  status.waterFlow * 1000 / 3600 * 4186 *
    (status.leavingWaterTemp - status.enteringWaterTemp)

def calculateCop : Block :=
  .compute fun frame =>
    let status :=
      { frame.status with heatOutputW := 0, cop := 0, copValid := false }
    if status.waterFlow > 1 / 100 ∧ status.powerValid = true ∧
        status.leavingWaterTemp > 0 ∧ status.enteringWaterTemp > -50 ∧
        status.leavingWaterTemp - status.enteringWaterTemp > 1 / 10 then
      if status.acPowerW > 0 then
        { frame with
          status :=
            { status with
              heatOutputW := heatOutput status
              cop := heatOutput status / status.acPowerW
              copValid := true } }
      else
        { frame with
          status := { status with heatOutputW := heatOutput status } }
    else
      { frame with status := status }

/-- A complete poll ends the initialisation of the saved targets. -/
def ControlLoop.completePoll (ok : Bool) (loop : ControlLoop) :
    ControlLoop :=
  { loop with
    savedTargetsInitialized := loop.savedTargetsInitialized || ok }

def concludePoll : Block :=
  .compute fun frame =>
    { frame with
      status := { frame.status with deviceOnline := frame.ok }
      loop := frame.loop.completePoll frame.ok }

def temperatureBlocks : List Block :=
  [readOutdoorTemp, readIndoorTemp, readLeavingWaterTemp,
    readEnteringWaterTemp, readDhwTankTemp]

def reportBlocks : List Block :=
  [readDhwPriority, readOccupancyMode, readAcCurrent, readDcCurrent,
    readAcVoltage, readDcVoltage, calculatePower, readUnitCapacity,
    readCompressorFreq, readWaterFlow, readActualCapacityOutput,
    readDhwValveStatus, readDhwModeStatus, readOduInputStatus,
    readCompressorRuntime, readPumpRuntime, calculateCop]

/-- The body of `readStatus`, block by block. -/
def readStatusBlocks : List Block :=
  temperatureBlocks ++
    [readRunningMode, readRunningStatus, readDhwTarget,
      readHeatingTarget] ++
    reportBlocks ++ [concludePoll]

/-- The return value of `readStatus`, the snapshot it filled and its world. -/
structure Poll (Device : Type) where
  ok : Bool
  status : StatusSnapshot
  world : World Device

def readStatus (client : IModbusClient Device) (status : StatusSnapshot)
    (world : World Device) : Poll Device :=
  let final :=
    readStatusBlocks.foldl (fun state block => block.run client state)
      ({ loop := world.loop, status := status }, world.bus)
  { ok := final.1.ok
    status := final.1.status
    world := { loop := final.1.loop, bus := final.2 } }

end Windmi.Core
