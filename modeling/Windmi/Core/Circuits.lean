import Windmi.Core.SavedTargets
import Windmi.Core.Settling

/-!
# The two circuits

The loop treats the tank and the heating circuit alike: each has a target
register, a command which sets it, a saved target and a working mode which
suppresses it.  What commands, polls and the control logic do to a circuit is
therefore stated once, for a `Circuit`.
-/

namespace Windmi.Core

open Windmi.Library
open Windmi.Modbus

/-- What the loop uses for one of the two circuits of the heat pump. -/
structure Circuit where
  register : Address
  setKind : CommandType
  /-- The working mode which suppresses the circuit. -/
  offMode : Int
  minimum : ℚ
  saved : ControlLoop → ℚ

def dhwCircuit : Circuit where
  register := regDhwTarget
  setKind := .setDhwTemp
  offMode := 2
  minimum := dhwTargetMin
  saved := ControlLoop.savedDhwTarget

def heatingCircuit : Circuit where
  register := regHeatingTarget
  setKind := .setHeatingTemp
  offMode := 1
  minimum := heatingTargetMin
  saved := ControlLoop.savedHeatingTarget

/-- The word in the target register after the enforcement of the targets. -/
def Circuit.enforced (circuit : Circuit) (loop : ControlLoop)
    (raw : Word) : Word :=
  if loop.desiredWorkingMode = circuit.offMode ∧
      rawToTemp raw > circuit.minimum + 1 / 2 then
    tempToRaw circuit.minimum
  else if loop.desiredWorkingMode = 3 ∧
      Apart (rawToTemp raw) (circuit.saved loop) then
    tempToRaw (circuit.saved loop)
  else
    raw

/-- The target of a circuit in a snapshot. -/
def Circuit.reported (circuit : Circuit) (status : StatusSnapshot) : ℚ :=
  if circuit.setKind = .setDhwTemp then status.dhwTarget
  else status.heatingTarget

@[simp]
theorem dhwCircuit_reported (status : StatusSnapshot) :
    dhwCircuit.reported status = status.dhwTarget :=
  if_pos rfl

@[simp]
theorem heatingCircuit_reported (status : StatusSnapshot) :
    heatingCircuit.reported status = status.heatingTarget :=
  if_neg (by decide)

/-- The control logic writes the saved target. -/
def Circuit.Restores (circuit : Circuit) (status : StatusSnapshot)
    (loop : ControlLoop) : Prop :=
  loop.desiredWorkingMode = 3 ∧
    Apart (circuit.reported status) (circuit.saved loop)

instance (circuit : Circuit) (status : StatusSnapshot)
    (loop : ControlLoop) : Decidable (circuit.Restores status loop) :=
  inferInstanceAs (Decidable (_ ∧ _))

/-- How the failure-free loop treats a circuit. -/
structure Circuit.Governed (circuit : Circuit) : Prop where
  notMode : circuit.setKind ≠ .setRunningMode
  offMode : circuit.offMode ≠ 3
  minimum : rawToTemp (tempToRaw circuit.minimum) = circuit.minimum
  polled : circuit.register ∈ polledRegisters
  fits : ∀ loop, Bounded loop → Representable (circuit.saved loop)
  inRange : ∀ cmd : Command, cmd.SetpointInRange →
    cmd.type = circuit.setKind → Representable cmd.floatVal
  command : ∀ cmd world,
    (processCommand registerFile cmd world).bus.device circuit.register =
      if cmd.type = circuit.setKind then
        tempToRaw cmd.floatVal
      else if cmd.type = .setRunningMode ∧ cmd.intVal = circuit.offMode then
        tempToRaw circuit.minimum
      else if cmd.type = .setRunningMode ∧ cmd.intVal = 3 then
        tempToRaw (circuit.saved world.loop)
      else
        world.bus.device circuit.register
  commandSaved : ∀ cmd (world : World RegisterFile),
    circuit.saved (processCommand registerFile cmd world).loop =
      if cmd.type = circuit.setKind then cmd.floatVal
      else circuit.saved world.loop
  observed : ∀ registers loop,
    circuit.saved (observed registers loop) =
      observedTarget loop.savedTargetsInitialized
        (some (registers circuit.register)) (circuit.saved loop)
  control : ∀ loop registers,
    enforcedRegisters loop registers circuit.register =
      circuit.enforced loop (registers circuit.register)
  controlSaved : ∀ (loop : ControlLoop) current priority dhw heating,
    circuit.saved
        { loop with
          currentMode := current
          currentPriority := priority
          mDhwTarget := dhw
          mHeatingTarget := heating } =
      circuit.saved loop

theorem read_written (registers : RegisterFile) (address : Address)
    (value : Word) :
    Function.update registers address value address = value :=
  Function.update_self ..

theorem read_other (registers : RegisterFile) {address written : Address}
    (different : address ≠ written) (value : Word) :
    Function.update registers written value address = registers address :=
  Function.update_of_ne different ..

/-- The target registers after the overrides of a mode command. -/
theorem overrideTargets_device (workingMode : Int)
    (world : World RegisterFile) :
    let after := (overrideTargets registerFile workingMode world).bus.device
    after regDhwTarget =
        (if workingMode = 2 then tempToRaw dhwTargetMin
          else if workingMode = 3 then tempToRaw world.loop.savedDhwTarget
          else world.bus.device regDhwTarget) ∧
      after regHeatingTarget =
        (if workingMode = 1 then tempToRaw heatingTargetMin
          else if workingMode = 3 then
            tempToRaw world.loop.savedHeatingTarget
          else world.bus.device regHeatingTarget) := by
  have heatingDhw : regHeatingTarget ≠ regDhwTarget := by decide
  have dhwPriority : regDhwTarget ≠ regDhwPriority := by decide
  have heatingPriority : regHeatingTarget ≠ regDhwPriority := by decide
  unfold overrideTargets
  split
  · simp [setHeatingTarget_registerFile, writePriority_registerFile,
      World.updateLoop, World.fireSettingsCallback, World.emit,
      World.writeRegister, heatingDhw.symm, dhwPriority, heatingPriority]
  · simp [setDhwTarget_registerFile, writePriority_registerFile,
      World.updateLoop, World.fireSettingsCallback, World.emit,
      World.writeRegister, heatingDhw, dhwPriority, heatingPriority]
  · simp [setDhwTarget_registerFile, setHeatingTarget_registerFile,
      writePriority_registerFile, World.updateLoop,
      World.fireSettingsCallback, World.emit, World.writeRegister,
      heatingDhw.symm, dhwPriority, heatingPriority]
  next notOne notTwo notThree =>
    constructor
    · rw [if_neg notTwo, if_neg notThree]
    · rw [if_neg notOne, if_neg notThree]

/-- The target registers after a mode command. -/
theorem processSetRunningMode_device (workingMode : Int)
    (world : World RegisterFile) :
    let after :=
      (processSetRunningMode registerFile workingMode world).bus.device
    after regDhwTarget =
        (if workingMode = 2 then tempToRaw dhwTargetMin
          else if workingMode = 3 then tempToRaw world.loop.savedDhwTarget
          else world.bus.device regDhwTarget) ∧
      after regHeatingTarget =
        (if workingMode = 1 then tempToRaw heatingTargetMin
          else if workingMode = 3 then
            tempToRaw world.loop.savedHeatingTarget
          else world.bus.device regHeatingTarget) := by
  rw [processSetRunningMode_registerFile]
  have overridden := overrideTargets_device workingMode
    ((((world.updateLoop fun loop =>
      { loop with
        desiredWorkingMode := workingMode }).fireSettingsCallback).writeRegister
          registerFile regRunningMode
          (BitVec.ofInt 16 (targetDeviceMode workingMode))).2.updateLoop
            fun loop =>
              { loop with currentMode := targetDeviceMode workingMode })
  have dhw : regDhwTarget ≠ regRunningMode := by decide
  have heating : regHeatingTarget ≠ regRunningMode := by decide
  simpa [World.updateLoop, World.writeRegister, World.fireSettingsCallback,
    World.emit, dhw, heating] using overridden

theorem dhwCircuit_governed : dhwCircuit.Governed where
  notMode := by decide
  offMode := by decide
  minimum := by decide +kernel
  polled := by decide
  fits := fun _ bounded => bounded.dhw
  inRange := fun _ inRange kind => inRange.dhw_representable kind
  command := by
    intro cmd world
    have heating : regDhwTarget ≠ regHeatingTarget := by decide
    have priority : regDhwTarget ≠ regDhwPriority := by decide
    have occupancy : regDhwTarget ≠ regOccupancyMode := by decide
    unfold processCommand
    cases kind : cmd.type with
    | setDhwTemp =>
        exact read_written world.bus.device regDhwTarget _
    | setHeatingTemp =>
        exact read_other world.bus.device heating (tempToRaw cmd.floatVal)
    | setPriority =>
        exact read_other world.bus.device priority
          (BitVec.ofInt 16 cmd.intVal)
    | setOccupancyMode =>
        exact read_other world.bus.device occupancy
          (BitVec.ofInt 16 cmd.intVal)
    | setRunningMode =>
        have device := (processSetRunningMode_device cmd.intVal
          (world.emit (.command cmd))).1
        simpa [dhwCircuit, World.emit] using device
  commandSaved := by
    intro cmd world
    exact (processCommand_saved registerFile world cmd).1
  observed := by
    intro registers loop
    exact congrArg ControlLoop.savedDhwTarget (observe_eq _ loop)
  control := enforcedRegisters_regDhwTarget
  controlSaved := by
    intro loop current priority dhw heating
    rfl

theorem heatingCircuit_governed : heatingCircuit.Governed where
  notMode := by decide
  offMode := by decide
  minimum := by decide +kernel
  polled := by decide
  fits := fun _ bounded => bounded.heating
  inRange := fun _ inRange kind => inRange.heating_representable kind
  command := by
    intro cmd world
    have dhw : regHeatingTarget ≠ regDhwTarget := by decide
    have priority : regHeatingTarget ≠ regDhwPriority := by decide
    have occupancy : regHeatingTarget ≠ regOccupancyMode := by decide
    unfold processCommand
    cases kind : cmd.type with
    | setDhwTemp =>
        exact read_other world.bus.device dhw (tempToRaw cmd.floatVal)
    | setHeatingTemp =>
        exact read_written world.bus.device regHeatingTarget _
    | setPriority =>
        exact read_other world.bus.device priority
          (BitVec.ofInt 16 cmd.intVal)
    | setOccupancyMode =>
        exact read_other world.bus.device occupancy
          (BitVec.ofInt 16 cmd.intVal)
    | setRunningMode =>
        have device := (processSetRunningMode_device cmd.intVal
          (world.emit (.command cmd))).2
        simpa [heatingCircuit, World.emit] using device
  commandSaved := by
    intro cmd world
    exact (processCommand_saved registerFile world cmd).2.1
  observed := by
    intro registers loop
    exact congrArg ControlLoop.savedHeatingTarget (observe_eq _ loop)
  control := enforcedRegisters_regHeatingTarget
  controlSaved := by
    intro loop current priority dhw heating
    rfl

/-! ## What both circuits have in common -/

section

variable {circuit : Circuit}
  (member : circuit ∈ [dhwCircuit, heatingCircuit])

include member

theorem Circuit.dhw_or_heating :
    circuit = dhwCircuit ∨ circuit = heatingCircuit := by
  simpa only [List.mem_cons, List.not_mem_nil, or_false] using member

theorem Circuit.register_ne :
    regRunningMode ≠ circuit.register ∧ regDhwPriority ≠ circuit.register ∧
      regOccupancyMode ≠ circuit.register := by
  rcases Circuit.dhw_or_heating member with rfl | rfl <;> decide

theorem Circuit.register_polled : circuit.register ∈ polledRegisters := by
  rcases Circuit.dhw_or_heating member with rfl | rfl <;> decide

theorem Circuit.setKind_ne : circuit.setKind ≠ .setRunningMode := by
  rcases Circuit.dhw_or_heating member with rfl | rfl <;> decide

variable {Device : Type} (client : IModbusClient Device)
  (world : World Device)

theorem Circuit.saved_processCommand (cmd : Command) :
    circuit.saved (processCommand client cmd world).loop =
      if cmd.type = circuit.setKind then cmd.floatVal
      else circuit.saved world.loop := by
  rcases processCommand_saved client world cmd with ⟨dhw, heating, -⟩
  rcases Circuit.dhw_or_heating member with rfl | rfl
  · exact dhw
  · exact heating

theorem Circuit.saved_observe (outcome : Outcomes) (loop : ControlLoop) :
    circuit.saved (observe outcome loop) =
      observedTarget loop.savedTargetsInitialized
        (outcome circuit.register) (circuit.saved loop) := by
  rw [observe_eq]
  rcases Circuit.dhw_or_heating member with rfl | rfl <;> rfl

/-- The correction of the device mode enforces the mode as it finds it. -/
theorem Circuit.correctDeviceMode_keeps :
    (correctDeviceMode client world).loop.desiredWorkingMode =
        world.loop.desiredWorkingMode ∧
      circuit.saved (correctDeviceMode client world).loop =
        circuit.saved world.loop := by
  rcases correctDeviceMode_loop client world with ⟨current, equal⟩
  rw [equal]
  refine ⟨rfl, ?_⟩
  rcases Circuit.dhw_or_heating member with rfl | rfl <;> rfl

theorem Circuit.saved_applyControlLogic (status : StatusSnapshot) :
    circuit.saved (applyControlLogic client status world).loop =
      circuit.saved world.loop := by
  rcases applyControlLogic_loop client world status with
    ⟨current, dhw, heating, priority, equal⟩
  rw [equal]
  rcases Circuit.dhw_or_heating member with rfl | rfl <;> rfl

end

end Windmi.Core
