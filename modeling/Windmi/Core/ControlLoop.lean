import Windmi.Core.Temperature
import Windmi.Modbus.Interface

/-!
# State and register writers of the control loop

The data types of `include/core/ControlLoop.hpp`, the state of a running
`ControlLoop` and its member functions which write one setting:
`setInitialSettings`, `fireSettingsCallback`, `setRunningMode`,
`setDhwTarget` and `setHeatingTarget`.

The effects of the loop are recorded in a history, newest event first:
commands taken from the queue, accesses to registers with their outcome, calls
of the settings callback, entries into the control logic and published
snapshots.  A write is stamped with `desired_working_mode_` at that moment.
-/

namespace Windmi.Core

open Windmi.Modbus

/-! ## Data types -/

inductive CommandType where
  | setDhwTemp
  | setHeatingTemp
  | setPriority
  | setRunningMode
  | setOccupancyMode
  deriving DecidableEq, Repr

/-- `Command`: the value in use depends on the type. -/
structure Command where
  type : CommandType
  floatVal : ℚ := 0
  intVal : Int := 0
  deriving DecidableEq, Repr

inductive PriorityMode where
  | dhw
  | heating
  deriving DecidableEq, Repr

structure StatusSnapshot where
  outdoorTemp : ℚ := 0
  indoorTemp : ℚ := 0
  leavingWaterTemp : ℚ := 0
  enteringWaterTemp : ℚ := 0
  dhwTankTemp : ℚ := 0
  dhwTarget : ℚ := 0
  heatingTarget : ℚ := 0
  runningMode : Int := 0
  runningStatus : Int := 0
  dhwPriority : Bool := false
  isRunning : Bool := false
  deviceOnline : Bool := false
  acCurrent : ℚ := 0
  dcCurrent : ℚ := 0
  acVoltage : ℚ := 0
  dcVoltage : ℚ := 0
  acPowerVa : ℚ := 0
  acPowerW : ℚ := 0
  powerValid : Bool := false
  compressorFreq : ℚ := 0
  waterFlow : ℚ := 0
  unitCapacityKw : Int := 0
  actualCapacityOutput : Int := 0
  dhwValveStatus : Int := -1
  dhwModeStatus : Int := -1
  oduInputStatus : Int := 0
  compressorRuntimeH : Int := 0
  pumpRuntimeH : Int := 0
  heatOutputW : ℚ := 0
  cop : ℚ := 0
  copValid : Bool := false
  workingMode : Int := 0
  occupancyMode : Int := 2
  deriving DecidableEq, Repr

/-- The control state of a `ControlLoop`. -/
structure ControlLoop where
  currentPriority : PriorityMode := .dhw
  currentMode : Int := modeSetHeatDhw
  desiredWorkingMode : Int := 3
  lastHeatingTarget : ℚ := 45
  savedDhwTarget : ℚ := 46
  savedHeatingTarget : ℚ := 45
  savedTargetsInitialized : Bool := false
  mDhwTarget : ℚ := 45
  mHeatingTarget : ℚ := 40
  deriving DecidableEq, Repr

/-- `setInitialSettings`, fed from the persisted configuration. -/
def ControlLoop.setInitialSettings (loop : ControlLoop)
    (workingMode : Int) (priority : String)
    (dhwTarget heatingTarget : ℚ) : ControlLoop :=
  { loop with
    desiredWorkingMode := workingMode
    currentPriority := if priority = "heating" then .heating else .dhw
    mDhwTarget := dhwTarget
    mHeatingTarget := heatingTarget }

/-- What the persisted settings contain. -/
structure Settings where
  workingMode : Int
  priority : String
  dhwTarget : ℚ
  heatingTarget : ℚ
  deriving DecidableEq, Repr

def Settings.loop (settings : Settings) : ControlLoop :=
  ControlLoop.setInitialSettings {} settings.workingMode settings.priority
    settings.dhwTarget settings.heatingTarget

/-- The settings of a missing settings file. -/
def defaultSettings : Settings where
  workingMode := 3
  priority := "dhw"
  dhwTarget := 45
  heatingTarget := 40

def priorityToString : PriorityMode → String
  | .heating => "heating"
  | .dhw => "dhw"

/-! ## Worlds: the loop, the device behind it and the history -/

inductive Event where
  | command (cmd : Command)
  | read (address : Address) (outcome : Option Word)
  | write (address : Address) (value : Word) (accepted : Bool)
      (desired : Int)
  | settings (workingMode : Int) (priority : String)
      (dhwTarget heatingTarget : ℚ)
  | control
  | publish (status : StatusSnapshot)
  deriving DecidableEq, Repr

/-- The device with the history of what happened, newest event first. -/
structure Bus (Device : Type) where
  device : Device
  history : List Event

structure World (Device : Type) where
  loop : ControlLoop
  bus : Bus Device

variable {Device : Type}

def Bus.readRegister (client : IModbusClient Device) (address : Address)
    (bus : Bus Device) : Option Word × Bus Device :=
  let answer := client.readRegister address bus.device
  (answer.1,
    { device := answer.2
      history := .read address answer.1 :: bus.history })

def World.emit (event : Event) (world : World Device) : World Device :=
  { world with
    bus := { world.bus with history := event :: world.bus.history } }

def World.updateLoop (update : ControlLoop → ControlLoop)
    (world : World Device) : World Device :=
  { world with loop := update world.loop }

def World.setDevice (device : Device) (world : World Device) :
    World Device :=
  { world with bus := { world.bus with device := device } }

/-- `modbus_client_->writeRegister`; `false` is a thrown exception. -/
def World.writeRegister (client : IModbusClient Device)
    (address : Address) (value : Word) (world : World Device) :
    Bool × World Device :=
  let answer := client.writeRegister address value world.bus.device
  (answer.1,
    { world with
      bus :=
        { device := answer.2
          history :=
            .write address value answer.1 world.loop.desiredWorkingMode ::
              world.bus.history } })

/-- The client accepts a write in the given state. -/
def World.accepts (client : IModbusClient Device) (address : Address)
    (value : Word) (world : World Device) : Bool :=
  (client.writeRegister address value world.bus.device).1

theorem writeRegister_accepts (client : IModbusClient Device)
    (address : Address) (value : Word) (world : World Device) :
    (world.writeRegister client address value).1 =
      world.accepts client address value :=
  rfl

/-- `fireSettingsCallback`, with the callback installed as `main` does. -/
def World.fireSettingsCallback (world : World Device) : World Device :=
  world.emit
    (.settings world.loop.desiredWorkingMode
      (priorityToString world.loop.currentPriority)
      world.loop.mDhwTarget world.loop.mHeatingTarget)

/-! ## Writers of single settings -/

/-- `setRunningMode`: only the device modes 0, 1 and 2 are ever written. -/
def setRunningMode (client : IModbusClient Device) (mode : Int)
    (world : World Device) : Int × World Device :=
  if mode < 0 ∨ mode > 2 then
    (-1, world)
  else
    let attempt :=
      world.writeRegister client regRunningMode (BitVec.ofInt 16 mode)
    if attempt.1 then (0, attempt.2) else (-1, attempt.2)

def setDhwTarget (client : IModbusClient Device) (temp : ℚ)
    (world : World Device) : Int × World Device :=
  let attempt := world.writeRegister client regDhwTarget (tempToRaw temp)
  if attempt.1 then
    (0, (attempt.2.updateLoop
      fun loop => { loop with mDhwTarget := temp }).fireSettingsCallback)
  else
    (-1, attempt.2)

def setHeatingTarget (client : IModbusClient Device) (temp : ℚ)
    (world : World Device) : Int × World Device :=
  let attempt := world.writeRegister client regHeatingTarget (tempToRaw temp)
  if attempt.1 then
    (0, (attempt.2.updateLoop
      fun loop => { loop with mHeatingTarget := temp }).fireSettingsCallback)
  else
    (-1, attempt.2)

theorem setDhwTarget_world (client : IModbusClient Device) (temp : ℚ)
    (world : World Device) :
    let attempt := world.writeRegister client regDhwTarget (tempToRaw temp)
    (setDhwTarget client temp world).2 =
      if attempt.1 then
        (attempt.2.updateLoop
          fun loop => { loop with mDhwTarget := temp }).fireSettingsCallback
      else
        attempt.2 :=
  apply_ite Prod.snd ..

theorem setHeatingTarget_world (client : IModbusClient Device) (temp : ℚ)
    (world : World Device) :
    let attempt :=
      world.writeRegister client regHeatingTarget (tempToRaw temp)
    (setHeatingTarget client temp world).2 =
      if attempt.1 then
        (attempt.2.updateLoop fun loop =>
          { loop with mHeatingTarget := temp }).fireSettingsCallback
      else
        attempt.2 :=
  apply_ite Prod.snd ..

/--
The guarded write of the priority register which mode commands and the control
logic share: the priority in memory follows only a write that succeeds.
-/
def writePriority (client : IModbusClient Device) (value : Word)
    (priority : PriorityMode) (world : World Device) :
    Bool × World Device :=
  let attempt := world.writeRegister client regDhwPriority value
  if attempt.1 then
    (true, attempt.2.updateLoop
      fun loop => { loop with currentPriority := priority })
  else
    attempt

theorem writePriority_world (client : IModbusClient Device) (value : Word)
    (priority : PriorityMode) (world : World Device) :
    let attempt := world.writeRegister client regDhwPriority value
    (writePriority client value priority world).2 =
      if attempt.1 then
        attempt.2.updateLoop
          fun loop => { loop with currentPriority := priority }
      else
        attempt.2 :=
  apply_ite Prod.snd ..

end Windmi.Core
