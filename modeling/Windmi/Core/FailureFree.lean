import Windmi.Core.Effects

/-!
# Iterations without failures

Over a device that never fails an iteration is a function of the control state
and the registers.  Each stage of the control logic writes its own registers:
what it leaves in them is stated here once, together with what it does to the
control state, so that later arguments look at single registers.
-/

namespace Windmi.Core

open Windmi.Modbus

/-! ## Writers of single settings -/

theorem setDhwTarget_registerFile (temp : ℚ)
    (world : World RegisterFile) :
    setDhwTarget registerFile temp world =
      (0, ((world.writeRegister registerFile regDhwTarget
          (tempToRaw temp)).2.updateLoop
        fun loop => { loop with mDhwTarget := temp }).fireSettingsCallback) :=
  rfl

theorem setHeatingTarget_registerFile (temp : ℚ)
    (world : World RegisterFile) :
    setHeatingTarget registerFile temp world =
      (0, ((world.writeRegister registerFile regHeatingTarget
          (tempToRaw temp)).2.updateLoop fun loop =>
        { loop with mHeatingTarget := temp }).fireSettingsCallback) :=
  rfl

theorem writePriority_registerFile (value : Word)
    (priority : PriorityMode) (world : World RegisterFile) :
    writePriority registerFile value priority world =
      (true, (world.writeRegister registerFile regDhwPriority
          value).2.updateLoop
        fun loop => { loop with currentPriority := priority }) :=
  rfl

theorem setRunningMode_desired (workingMode : Int)
    (world : World RegisterFile) :
    setRunningMode registerFile (desiredDeviceMode workingMode) world =
      (0, (world.writeRegister registerFile regRunningMode
        (BitVec.ofInt 16 (desiredDeviceMode workingMode))).2) := by
  unfold desiredDeviceMode
  split <;> rfl

theorem setRunningMode_target (workingMode : Int)
    (world : World RegisterFile) :
    setRunningMode registerFile (targetDeviceMode workingMode) world =
      (0, (world.writeRegister registerFile regRunningMode
        (BitVec.ofInt 16 (targetDeviceMode workingMode))).2) := by
  unfold targetDeviceMode
  split <;> rfl

/-- Off and unknown modes override nothing. -/
theorem overrideTargets_other {workingMode : Int}
    (notOne : workingMode ≠ 1) (notTwo : workingMode ≠ 2)
    (notThree : workingMode ≠ 3) (world : World RegisterFile) :
    overrideTargets registerFile workingMode world = world := by
  unfold overrideTargets
  split
  · exact absurd rfl notOne
  · exact absurd rfl notTwo
  · exact absurd rfl notThree
  · rfl

/-- The mode is always written, so that the overrides always follow. -/
theorem processSetRunningMode_registerFile (workingMode : Int)
    (world : World RegisterFile) :
    let target := targetDeviceMode workingMode
    let commanded :=
      (world.updateLoop fun loop =>
        { loop with desiredWorkingMode := workingMode }).fireSettingsCallback
    processSetRunningMode registerFile workingMode world =
      overrideTargets registerFile workingMode
        ((commanded.writeRegister registerFile regRunningMode
          (BitVec.ofInt 16 target)).2.updateLoop
            fun loop => { loop with currentMode := target }) := by
  intro target commanded
  simp only [processSetRunningMode, setRunningMode_target]
  rfl

/-! ## What the control logic leaves in a register -/

/-- The word in `REG_RUNNING_MODE` after the correction of the mode. -/
def correctedMode (loop : ControlLoop) (raw : Word) : Word :=
  if loop.currentMode ≠ desiredDeviceMode loop.desiredWorkingMode then
    BitVec.ofInt 16 (desiredDeviceMode loop.desiredWorkingMode)
  else
    raw

/-- The word in `REG_DHW_TARGET` after the enforcement of the targets. -/
def enforcedDhw (loop : ControlLoop) (raw : Word) : Word :=
  if loop.desiredWorkingMode = 2 ∧
      rawToTemp raw > dhwTargetMin + 1 / 2 then
    tempToRaw dhwTargetMin
  else if loop.desiredWorkingMode = 3 ∧
      Apart (rawToTemp raw) loop.savedDhwTarget then
    tempToRaw loop.savedDhwTarget
  else
    raw

/-- The word in `REG_HEATING_TARGET` after the enforcement of the targets. -/
def enforcedHeating (loop : ControlLoop) (raw : Word) : Word :=
  if loop.desiredWorkingMode = 1 ∧
      rawToTemp raw > heatingTargetMin + 1 / 2 then
    tempToRaw heatingTargetMin
  else if loop.desiredWorkingMode = 3 ∧
      Apart (rawToTemp raw) loop.savedHeatingTarget then
    tempToRaw loop.savedHeatingTarget
  else
    raw

section

variable {loop : ControlLoop}

theorem enforcedDhw_heatingOnly (mode : loop.desiredWorkingMode = 2)
    (raw : Word) :
    enforcedDhw loop raw =
      if rawToTemp raw > dhwTargetMin + 1 / 2 then
        tempToRaw dhwTargetMin
      else
        raw := by
  simp only [enforcedDhw, mode, true_and]
  split_ifs <;> simp_all

theorem enforcedDhw_both (mode : loop.desiredWorkingMode = 3)
    (raw : Word) :
    enforcedDhw loop raw =
      if Apart (rawToTemp raw) loop.savedDhwTarget then
        tempToRaw loop.savedDhwTarget
      else
        raw := by
  simp [enforcedDhw, mode]

theorem enforcedDhw_other (notTwo : loop.desiredWorkingMode ≠ 2)
    (notThree : loop.desiredWorkingMode ≠ 3) (raw : Word) :
    enforcedDhw loop raw = raw := by
  simp [enforcedDhw, notTwo, notThree]

theorem enforcedHeating_dhwOnly (mode : loop.desiredWorkingMode = 1)
    (raw : Word) :
    enforcedHeating loop raw =
      if rawToTemp raw > heatingTargetMin + 1 / 2 then
        tempToRaw heatingTargetMin
      else
        raw := by
  simp only [enforcedHeating, mode, true_and]
  split_ifs <;> simp_all

theorem enforcedHeating_both (mode : loop.desiredWorkingMode = 3)
    (raw : Word) :
    enforcedHeating loop raw =
      if Apart (rawToTemp raw) loop.savedHeatingTarget then
        tempToRaw loop.savedHeatingTarget
      else
        raw := by
  simp [enforcedHeating, mode]

theorem enforcedHeating_other (notOne : loop.desiredWorkingMode ≠ 1)
    (notThree : loop.desiredWorkingMode ≠ 3) (raw : Word) :
    enforcedHeating loop raw = raw := by
  simp [enforcedHeating, notOne, notThree]

end

/-- The priority which a working mode demands. -/
def requiredPriority (workingMode : Int) : Option PriorityMode :=
  if workingMode = 1 ∨ workingMode = 3 then
    some .dhw
  else if workingMode = 2 then
    some .heating
  else
    none

def priorityWord : PriorityMode → Word
  | .dhw => 1
  | .heating => 0

/-- The word in `REG_DHW_PRIORITY` after the enforcement of the priority. -/
def enforcedPriority (loop : ControlLoop) (raw : Word) : Word :=
  match requiredPriority loop.desiredWorkingMode with
  | some required =>
      if loop.currentPriority ≠ required then priorityWord required else raw
  | none => raw

/-- The registers after the control logic. -/
def enforcedRegisters (loop : ControlLoop) (registers : RegisterFile) :
    RegisterFile :=
  let corrected :=
    Function.update registers regRunningMode
      (correctedMode loop (registers regRunningMode))
  let dhw :=
    Function.update corrected regDhwTarget
      (enforcedDhw loop (registers regDhwTarget))
  let heating :=
    Function.update dhw regHeatingTarget
      (enforcedHeating loop (registers regHeatingTarget))
  Function.update heating regDhwPriority
    (enforcedPriority loop (registers regDhwPriority))

@[simp]
theorem enforcedRegisters_regRunningMode (loop : ControlLoop)
    (registers : RegisterFile) :
    enforcedRegisters loop registers regRunningMode =
      correctedMode loop (registers regRunningMode) := by
  simp [enforcedRegisters, regRunningMode,
    regDhwTarget, regHeatingTarget, regDhwPriority]

@[simp]
theorem enforcedRegisters_regDhwTarget (loop : ControlLoop)
    (registers : RegisterFile) :
    enforcedRegisters loop registers regDhwTarget =
      enforcedDhw loop (registers regDhwTarget) := by
  simp [enforcedRegisters, regRunningMode,
    regDhwTarget, regHeatingTarget, regDhwPriority]

@[simp]
theorem enforcedRegisters_regHeatingTarget (loop : ControlLoop)
    (registers : RegisterFile) :
    enforcedRegisters loop registers regHeatingTarget =
      enforcedHeating loop (registers regHeatingTarget) := by
  simp [enforcedRegisters, regRunningMode,
    regDhwTarget, regHeatingTarget, regDhwPriority]

@[simp]
theorem enforcedRegisters_regDhwPriority (loop : ControlLoop)
    (registers : RegisterFile) :
    enforcedRegisters loop registers regDhwPriority =
      enforcedPriority loop (registers regDhwPriority) := by
  simp [enforcedRegisters]

/-! ## The stages -/

variable (status : StatusSnapshot) (world : World RegisterFile)

/-- The shadow mode agrees with the demanded mode after the correction. -/
theorem correctDeviceMode_registerFile :
    (correctDeviceMode registerFile world).loop =
      { world.loop with
        currentMode := desiredDeviceMode world.loop.desiredWorkingMode } := by
  simp only [correctDeviceMode, setRunningMode_desired]
  split_ifs with different
  · rfl
  · rw [← not_not.mp different]

theorem correctDeviceMode_device :
    (correctDeviceMode registerFile world).bus.device =
      Function.update world.bus.device regRunningMode
        (correctedMode world.loop (world.bus.device regRunningMode)) := by
  simp only [correctDeviceMode, setRunningMode_desired, correctedMode]
  split_ifs
  · rfl
  · rw [Function.update_eq_self]

/-- The snapshot holds the targets which are in the registers. -/
structure Polled (status : StatusSnapshot) (registers : RegisterFile) :
    Prop where
  dhw : status.dhwTarget = rawToTemp (registers regDhwTarget)
  heating : status.heatingTarget = rawToTemp (registers regHeatingTarget)

theorem restoreDhwTarget_device {status : StatusSnapshot}
    {world : World RegisterFile} (mode : world.loop.desiredWorkingMode = 3)
    (polled : status.dhwTarget =
      rawToTemp (world.bus.device regDhwTarget)) :
    (restoreDhwTarget registerFile status world).bus.device =
      Function.update world.bus.device regDhwTarget
        (enforcedDhw world.loop (world.bus.device regDhwTarget)) := by
  rw [restoreDhwTarget, polled, enforcedDhw_both mode]
  split_ifs
  · rfl
  · rw [Function.update_eq_self]

theorem restoreHeatingTarget_device {status : StatusSnapshot}
    {world : World RegisterFile} (mode : world.loop.desiredWorkingMode = 3)
    (polled : status.heatingTarget =
      rawToTemp (world.bus.device regHeatingTarget)) :
    (restoreHeatingTarget registerFile status world).bus.device =
      Function.update world.bus.device regHeatingTarget
        (enforcedHeating world.loop
          (world.bus.device regHeatingTarget)) := by
  rw [restoreHeatingTarget, polled, enforcedHeating_both mode]
  split_ifs
  · rfl
  · rw [Function.update_eq_self]

theorem enforceTargets_device {status : StatusSnapshot}
    {world : World RegisterFile} (polled : Polled status world.bus.device) :
    (enforceTargets registerFile status world).bus.device =
      Function.update
        (Function.update world.bus.device regDhwTarget
          (enforcedDhw world.loop (world.bus.device regDhwTarget)))
        regHeatingTarget
        (enforcedHeating world.loop
          (world.bus.device regHeatingTarget)) := by
  have different : regHeatingTarget ≠ regDhwTarget := by decide
  have unchanged : ∀ word, Function.update
      (Function.update world.bus.device regDhwTarget word)
      regHeatingTarget (world.bus.device regHeatingTarget) =
        Function.update world.bus.device regDhwTarget word := by
    intro word
    rw [Function.update_comm different.symm, Function.update_eq_self]
  unfold enforceTargets
  split
  next mode =>
    rw [enforcedDhw_other (by omega) (by omega), enforcedHeating_dhwOnly mode,
      Function.update_eq_self, polled.heating]
    split_ifs
    · rfl
    · rw [Function.update_eq_self]
  next mode =>
    rw [enforcedHeating_other (by omega) (by omega), unchanged,
      enforcedDhw_heatingOnly mode, polled.dhw]
    split_ifs
    · rfl
    · rw [Function.update_eq_self]
  next mode =>
    have dhwDevice := restoreDhwTarget_device mode polled.dhw
    have heatingWord :
        (restoreDhwTarget registerFile status world).bus.device
            regHeatingTarget =
          world.bus.device regHeatingTarget := by
      rw [dhwDevice, Function.update_of_ne different]
    rcases restoreDhwTarget_loop registerFile world status with
      ⟨target, dhwLoop⟩
    rw [restoreHeatingTarget_device (by rw [dhwLoop]; exact mode)
      (polled.heating.trans (congrArg rawToTemp heatingWord.symm)),
      heatingWord, dhwDevice, dhwLoop]
    rfl
  next notOne notTwo notThree =>
    rw [enforcedDhw_other notTwo notThree,
      enforcedHeating_other notOne notThree, unchanged,
      Function.update_eq_self]

theorem requiredPriority_eq_none {mode : Int} (notOne : mode ≠ 1)
    (notTwo : mode ≠ 2) (notThree : mode ≠ 3) :
    requiredPriority mode = none := by
  simp [requiredPriority, notOne, notTwo, notThree]

theorem enforcePriority_registerFile :
    (enforcePriority registerFile world).loop =
      { world.loop with
        currentPriority :=
          (requiredPriority world.loop.desiredWorkingMode).getD
            world.loop.currentPriority } := by
  have kept : ∀ priority, world.loop.currentPriority = priority →
      world.loop = { world.loop with currentPriority := priority } := by
    rintro priority rfl
    rfl
  unfold enforcePriority
  split
  next mode =>
    rw [mode]
    split_ifs with different
    · rfl
    · exact kept .dhw (not_not.mp different)
  next mode =>
    rw [mode]
    split_ifs with different
    · rfl
    · exact kept .dhw (not_not.mp different)
  next mode =>
    rw [mode]
    split_ifs with different
    · rfl
    · exact kept .heating (not_not.mp different)
  next notOne notThree notTwo =>
    rw [requiredPriority_eq_none notOne notTwo notThree]
    rfl

theorem enforcePriority_device :
    (enforcePriority registerFile world).bus.device =
      Function.update world.bus.device regDhwPriority
        (enforcedPriority world.loop
          (world.bus.device regDhwPriority)) := by
  unfold enforcePriority enforcedPriority
  split
  next mode =>
    rw [show requiredPriority _ = some .dhw by rw [mode]; rfl]
    dsimp only
    split_ifs
    · rfl
    · rw [Function.update_eq_self]
  next mode =>
    rw [show requiredPriority _ = some .dhw by rw [mode]; rfl]
    dsimp only
    split_ifs
    · rfl
    · rw [Function.update_eq_self]
  next mode =>
    rw [show requiredPriority _ = some .heating by rw [mode]; rfl]
    dsimp only
    split_ifs
    · rfl
    · rw [Function.update_eq_self]
  next notOne notThree notTwo =>
    rw [requiredPriority_eq_none notOne notTwo notThree,
      Function.update_eq_self]

/-! ## The control logic and the iteration as a whole -/

/-- The control logic writes the registers stage by stage. -/
theorem applyControlLogic_device {status : StatusSnapshot}
    {world : World RegisterFile} (polled : Polled status world.bus.device) :
    (applyControlLogic registerFile status world).bus.device =
      enforcedRegisters world.loop world.bus.device := by
  let corrected := correctDeviceMode registerFile (world.emit .control)
  let targets := enforceTargets registerFile status corrected
  have correctedLoop := correctDeviceMode_registerFile (world.emit .control)
  have correctedDevice := correctDeviceMode_device (world.emit .control)
  have dhwWord :
      corrected.bus.device regDhwTarget =
        world.bus.device regDhwTarget := by
    rw [correctedDevice]
    exact Function.update_of_ne (by decide) ..
  have heatingWord :
      corrected.bus.device regHeatingTarget =
        world.bus.device regHeatingTarget := by
    rw [correctedDevice]
    exact Function.update_of_ne (by decide) ..
  have correctedPolled : Polled status corrected.bus.device :=
    ⟨by rw [dhwWord, polled.dhw], by rw [heatingWord, polled.heating]⟩
  have targetsDevice := enforceTargets_device correctedPolled
  rcases enforceTargets_loop registerFile corrected status with
    ⟨dhw, heating, targetsLoop⟩
  have priorityWord :
      targets.bus.device regDhwPriority =
        world.bus.device regDhwPriority := by
    rw [targetsDevice, correctedDevice]
    rw [Function.update_of_ne (by decide), Function.update_of_ne (by decide)]
    exact Function.update_of_ne (by decide) ..
  calc
    (applyControlLogic registerFile status world).bus.device
        = Function.update targets.bus.device regDhwPriority
            (enforcedPriority targets.loop
              (targets.bus.device regDhwPriority)) :=
          enforcePriority_device targets
    _ = enforcedRegisters world.loop world.bus.device := by
          rw [priorityWord, targetsDevice, dhwWord, heatingWord, targetsLoop,
            correctedLoop, correctedDevice]
          rfl

/-- Of the control state, the shadow mode and the priority matter. -/
theorem applyControlLogic_registerFile :
    ∃ dhw heating,
      (applyControlLogic registerFile status world).loop =
        { world.loop with
          currentMode := desiredDeviceMode world.loop.desiredWorkingMode
          currentPriority :=
            (requiredPriority world.loop.desiredWorkingMode).getD
              world.loop.currentPriority
          mDhwTarget := dhw
          mHeatingTarget := heating } := by
  let corrected := correctDeviceMode registerFile (world.emit .control)
  rcases enforceTargets_loop registerFile corrected status with
    ⟨dhw, heating, targetsLoop⟩
  refine ⟨dhw, heating, ?_⟩
  have whole := enforcePriority_registerFile
    (enforceTargets registerFile status corrected)
  rw [targetsLoop,
    correctDeviceMode_registerFile (world.emit .control)] at whole
  exact whole

/-- Every read finds the content of the register. -/
def contents (registers : RegisterFile) : Outcomes :=
  fun address => some (registers address)

/-- The control state after a poll of the registers. -/
def observed (registers : RegisterFile) (loop : ControlLoop) :
    ControlLoop :=
  observe (contents registers) loop

theorem pollFrame_polled (registers : RegisterFile) (loop : ControlLoop) :
    Polled (pollFrame (contents registers) {} loop).status registers :=
  ⟨pollFrame_dhwTarget _ _ _, pollFrame_heatingTarget _ _ _⟩

/-- The poll of an iteration, which follows the commands. -/
def polledWorld (world : World RegisterFile) : World RegisterFile :=
  (pollWith (contents world.bus.device) world.bus.device {} world).world

/-- The snapshot of that poll. -/
def polledStatus (world : World RegisterFile) : StatusSnapshot :=
  (pollFrame (contents world.bus.device) {} world.loop).status

theorem iteration_registerFile (batch : List Command)
    (world : World RegisterFile) :
    let commanded := processCommands registerFile batch world
    let controlled :=
      applyControlLogic registerFile (polledStatus commanded)
        (polledWorld commanded)
    iteration registerFile batch world =
      controlled.emit
        (.publish
          { polledStatus commanded with
            workingMode := controlled.loop.desiredWorkingMode }) := by
  rw [iteration, readStatus_registerFile]
  rfl

/-- The poll before the first iteration. -/
theorem publishInitialStatus_registerFile (world : World RegisterFile) :
    publishInitialStatus registerFile world =
      (polledWorld world).emit
        (.publish
          { polledStatus world with
            deviceOnline := true
            workingMode := (polledWorld world).loop.desiredWorkingMode }) := by
  rw [publishInitialStatus, readStatus_registerFile]
  rfl

/-- What an iteration leaves in the registers. -/
theorem iteration_device (batch : List Command)
    (world : World RegisterFile) :
    let commanded := processCommands registerFile batch world
    (iteration registerFile batch world).bus.device =
      enforcedRegisters (observed commanded.bus.device commanded.loop)
        commanded.bus.device := by
  intro commanded
  rw [iteration_registerFile]
  have polled : Polled (polledStatus commanded)
      (polledWorld commanded).bus.device :=
    pollFrame_polled commanded.bus.device commanded.loop
  exact applyControlLogic_device polled

/-- What an iteration makes of the control state. -/
theorem iteration_loop (batch : List Command)
    (world : World RegisterFile) :
    let commanded := processCommands registerFile batch world
    let loop := observed commanded.bus.device commanded.loop
    ∃ dhw heating,
      (iteration registerFile batch world).loop =
        { loop with
          currentMode := desiredDeviceMode loop.desiredWorkingMode
          currentPriority :=
            (requiredPriority loop.desiredWorkingMode).getD
              loop.currentPriority
          mDhwTarget := dhw
          mHeatingTarget := heating } := by
  intro commanded loop
  rw [iteration_registerFile]
  exact applyControlLogic_registerFile (polledStatus commanded)
    (polledWorld commanded)

end Windmi.Core
