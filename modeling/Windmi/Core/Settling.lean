import Windmi.Core.FailureFree

/-!
# An iteration settles the device

One iteration without failures brings the registers to where the control logic
wants them, whatever it finds: the suppressed circuit is below its threshold,
the saved targets are in force and the shadow mode agrees with the demanded
one.  A settled device is left alone from then on.

The saved targets stay within the range of a register over every run, which is
what makes restoring them effective.
-/

namespace Windmi.Core

open Windmi.Modbus

/-! ## Reachable control states -/

/-- The setpoint of a command lies in the range which the API admits. -/
structure Command.SetpointInRange (cmd : Command) : Prop where
  dhw : cmd.type = .setDhwTemp →
    dhwTempMin ≤ cmd.floatVal ∧ cmd.floatVal ≤ dhwTempMax
  heating : cmd.type = .setHeatingTemp →
    heatingTempMin ≤ cmd.floatVal ∧ cmd.floatVal ≤ heatingTempMax

instance (cmd : Command) : Decidable cmd.SetpointInRange :=
  decidable_of_iff
    ((cmd.type = .setDhwTemp →
        dhwTempMin ≤ cmd.floatVal ∧ cmd.floatVal ≤ dhwTempMax) ∧
      (cmd.type = .setHeatingTemp →
        heatingTempMin ≤ cmd.floatVal ∧ cmd.floatVal ≤ heatingTempMax))
    ⟨fun both => ⟨both.1, both.2⟩, fun range => ⟨range.dhw, range.heating⟩⟩

theorem Command.SetpointInRange.dhw_representable {cmd : Command}
    (inRange : cmd.SetpointInRange) (kind : cmd.type = .setDhwTemp) :
    Representable cmd.floatVal := by
  rcases inRange.dhw kind with ⟨lower, upper⟩
  unfold dhwTempMin at lower
  unfold dhwTempMax at upper
  exact ⟨by linarith, by linarith⟩

theorem Command.SetpointInRange.heating_representable {cmd : Command}
    (inRange : cmd.SetpointInRange) (kind : cmd.type = .setHeatingTemp) :
    Representable cmd.floatVal := by
  rcases inRange.heating kind with ⟨lower, upper⟩
  unfold heatingTempMin at lower
  unfold heatingTempMax at upper
  exact ⟨by linarith, by linarith⟩

/--
A control state that some run reaches, with any settings, any device and any
failures, on commands whose setpoints are in range.
-/
def Reachable (loop : ControlLoop) : Prop :=
  ∃ (Device : Type) (client : IModbusClient Device) (device : Device)
    (workingMode : Int) (priority : String) (dhwTarget heatingTarget : ℚ)
    (batches : List (List Command)),
    (∀ batch ∈ batches, ∀ cmd ∈ batch, cmd.SetpointInRange) ∧
      (threadRun client
        (ControlLoop.setInitialSettings {} workingMode priority dhwTarget
          heatingTarget) device batches).loop = loop

/-- The saved targets fit into a register. -/
structure Bounded (loop : ControlLoop) : Prop where
  dhw : Representable loop.savedDhwTarget
  heating : Representable loop.savedHeatingTarget

theorem bounded_setInitialSettings (workingMode : Int) (priority : String)
    (dhwTarget heatingTarget : ℚ) :
    Bounded
      (ControlLoop.setInitialSettings {} workingMode priority dhwTarget
        heatingTarget) :=
  ⟨⟨by norm_num [ControlLoop.setInitialSettings],
      by norm_num [ControlLoop.setInitialSettings]⟩,
    ⟨by norm_num [ControlLoop.setInitialSettings],
      by norm_num [ControlLoop.setInitialSettings]⟩⟩

section

variable {Device : Type} (client : IModbusClient Device)
  {world : World Device}

theorem Bounded.processCommand (bounded : Bounded world.loop)
    {cmd : Command} (inRange : cmd.SetpointInRange) :
    Bounded (processCommand client cmd world).loop := by
  rcases processCommand_saved client world cmd with ⟨dhw, heating, -⟩
  constructor
  · rw [dhw]
    split_ifs with kind
    · exact inRange.dhw_representable kind
    · exact bounded.dhw
  · rw [heating]
    split_ifs with kind
    · exact inRange.heating_representable kind
    · exact bounded.heating

theorem Bounded.processCommands (bounded : Bounded world.loop)
    {batch : List Command}
    (inRange : ∀ cmd ∈ batch, cmd.SetpointInRange) :
    Bounded (processCommands client batch world).loop :=
  List.foldlRecOn
    (motive := fun world : World Device => Bounded world.loop) batch _
    bounded fun _ previous cmd member =>
      previous.processCommand client (inRange cmd member)

theorem Bounded.observe {loop : ControlLoop} (bounded : Bounded loop)
    (outcome : Outcomes) : Bounded (observe outcome loop) := by
  have target : ∀ initialized result saved, Representable saved →
      Representable (observedTarget initialized result saved) := by
    intro initialized result saved fits
    cases initialized <;> cases result
    · exact fits
    · exact representable_rawToTemp _
    · exact fits
    · exact fits
  rw [observe_eq]
  exact ⟨target _ _ _ bounded.dhw, target _ _ _ bounded.heating⟩

theorem Bounded.readStatus (bounded : Bounded world.loop)
    (status : StatusSnapshot) :
    Bounded (readStatus client status world).world.loop := by
  rw [readStatus_spec]
  exact bounded.observe _

theorem Bounded.applyControlLogic (bounded : Bounded world.loop)
    (status : StatusSnapshot) :
    Bounded (applyControlLogic client status world).loop := by
  rcases applyControlLogic_loop client world status with
    ⟨current, dhw, heating, priority, equal⟩
  rw [equal]
  exact ⟨bounded.dhw, bounded.heating⟩

theorem Bounded.concludeIteration {poll : Poll Device}
    (bounded : Bounded poll.world.loop) :
    Bounded (concludeIteration client poll).loop := by
  unfold Windmi.Core.concludeIteration
  split_ifs
  · exact bounded.applyControlLogic client poll.status
  · exact bounded

theorem Bounded.iteration (bounded : Bounded world.loop)
    {batch : List Command}
    (inRange : ∀ cmd ∈ batch, cmd.SetpointInRange) :
    Bounded (iteration client batch world).loop :=
  ((bounded.processCommands client inRange).readStatus client
    {}).concludeIteration client

theorem Bounded.publishInitialStatus (bounded : Bounded world.loop) :
    Bounded (publishInitialStatus client world).loop := by
  have polled := bounded.readStatus client {}
  simp only [Windmi.Core.publishInitialStatus]
  split_ifs
  · exact polled
  · exact polled

end

theorem Reachable.bounded {loop : ControlLoop}
    (reachable : Reachable loop) : Bounded loop := by
  rcases reachable with
    ⟨Device, client, device, workingMode, priority, dhwTarget,
      heatingTarget, batches, inRange, rfl⟩
  let start := ControlLoop.setInitialSettings {} workingMode priority
    dhwTarget heatingTarget
  have fresh : Bounded start := bounded_setInitialSettings _ _ _ _
  have initial : Bounded (World.mk start (Bus.mk device [])).loop := fresh
  exact runLoop_induction
    (motive := fun world : World Device => Bounded world.loop)
    (fun _ _ reached => reached)
    (fun _ reached batch member =>
      reached.iteration client (inRange batch member))
    (initial.publishInitialStatus client)

/-! ## The settled device -/

/-- Nothing is left to do for the control logic. -/
structure Settled (loop : ControlLoop) (registers : RegisterFile) :
    Prop where
  initialized : loop.savedTargetsInitialized = true
  mode : observedMode (some (registers regRunningMode)) loop.currentMode =
    desiredDeviceMode loop.desiredWorkingMode
  heatingSuppressed : loop.desiredWorkingMode = 1 →
    rawToTemp (registers regHeatingTarget) ≤ heatingTargetMin + 1 / 2
  dhwSuppressed : loop.desiredWorkingMode = 2 →
    rawToTemp (registers regDhwTarget) ≤ dhwTargetMin + 1 / 2
  dhwRestored : loop.desiredWorkingMode = 3 →
    ¬ Apart (rawToTemp (registers regDhwTarget)) loop.savedDhwTarget
  heatingRestored : loop.desiredWorkingMode = 3 →
    ¬ Apart (rawToTemp (registers regHeatingTarget))
      loop.savedHeatingTarget
  priority : ∀ required,
    requiredPriority loop.desiredWorkingMode = some required →
      loop.currentPriority = required

theorem rawToTemp_dhwTargetMin :
    rawToTemp (tempToRaw dhwTargetMin) = 40 := by
  decide +kernel

theorem rawToTemp_heatingTargetMin :
    rawToTemp (tempToRaw heatingTargetMin) = 25 := by
  decide +kernel

theorem enforcedDhw_le {loop : ControlLoop}
    (mode : loop.desiredWorkingMode = 2) (raw : Word) :
    rawToTemp (enforcedDhw loop raw) ≤ dhwTargetMin + 1 / 2 := by
  rw [enforcedDhw_heatingOnly mode]
  split_ifs with above
  · rw [rawToTemp_dhwTargetMin]
    norm_num [dhwTargetMin]
  · exact not_lt.mp above

theorem enforcedHeating_le {loop : ControlLoop}
    (mode : loop.desiredWorkingMode = 1) (raw : Word) :
    rawToTemp (enforcedHeating loop raw) ≤ heatingTargetMin + 1 / 2 := by
  rw [enforcedHeating_dhwOnly mode]
  split_ifs with above
  · rw [rawToTemp_heatingTargetMin]
    norm_num [heatingTargetMin]
  · exact not_lt.mp above

/-- A restored target is off by the truncation only. -/
theorem enforcedDhw_close {loop : ControlLoop}
    (mode : loop.desiredWorkingMode = 3)
    (fits : Representable loop.savedDhwTarget) (raw : Word) :
    ¬ Apart (rawToTemp (enforcedDhw loop raw)) loop.savedDhwTarget := by
  rw [enforcedDhw_both mode]
  split_ifs with apart
  · exact not_apart_tempToRaw fits
  · exact apart

theorem enforcedHeating_close {loop : ControlLoop}
    (mode : loop.desiredWorkingMode = 3)
    (fits : Representable loop.savedHeatingTarget) (raw : Word) :
    ¬ Apart (rawToTemp (enforcedHeating loop raw))
      loop.savedHeatingTarget := by
  rw [enforcedHeating_both mode]
  split_ifs with apart
  · exact not_apart_tempToRaw fits
  · exact apart

theorem toInt_desiredDeviceMode (workingMode : Int) :
    (BitVec.ofInt 16 (desiredDeviceMode workingMode)).toInt =
      desiredDeviceMode workingMode := by
  unfold desiredDeviceMode
  split <;> rfl

theorem desiredDeviceMode_mem (workingMode : Int) :
    desiredDeviceMode workingMode = 0 ∨
      desiredDeviceMode workingMode = 1 ∨
        desiredDeviceMode workingMode = 2 := by
  unfold desiredDeviceMode
  split <;> decide

/-- A second look at a register repeats the first. -/
theorem observedMode_idem (outcome : Option Word) (current : Int) :
    observedMode outcome (observedMode outcome current) =
      observedMode outcome current := by
  cases outcome with
  | none => rfl
  | some raw =>
      simp only [observedMode, Option.elim_some]
      split_ifs <;> rfl

/-- A corrected register no longer moves the shadow mode. -/
theorem observedMode_correctedMode {loop : ControlLoop} {raw : Word}
    {previous : Int}
    (polled : loop.currentMode = observedMode (some raw) previous) :
    observedMode (some (correctedMode loop raw))
        (desiredDeviceMode loop.desiredWorkingMode) =
      desiredDeviceMode loop.desiredWorkingMode := by
  unfold correctedMode
  split_ifs with different
  · simp only [observedMode, Option.elim_some, toInt_desiredDeviceMode]
    split_ifs <;> rfl
  · have same := not_not.mp different
    rw [← same, polled]
    exact observedMode_idem _ _

/-- One iteration settles the device, whatever it finds. -/
theorem iteration_settled {world : World RegisterFile}
    (bounded : Bounded world.loop) {batch : List Command}
    (inRange : ∀ cmd ∈ batch, cmd.SetpointInRange) :
    Settled (iteration registerFile batch world).loop
      (iteration registerFile batch world).bus.device := by
  let commanded := processCommands registerFile batch world
  let loop := observed commanded.bus.device commanded.loop
  have polled : Bounded loop :=
    (bounded.processCommands registerFile inRange).observe _
  have observation := observe_eq (contents commanded.bus.device)
    commanded.loop
  have shadow : loop.currentMode =
      observedMode (some (commanded.bus.device regRunningMode))
        commanded.loop.currentMode :=
    congrArg ControlLoop.currentMode observation
  have initialized : loop.savedTargetsInitialized = true := by
    have flag := congrArg ControlLoop.savedTargetsInitialized observation
    exact flag.trans (Bool.or_true _)
  rcases iteration_loop batch world with ⟨dhw, heating, loopEqual⟩
  rw [iteration_device, loopEqual]
  constructor
  case initialized => exact initialized
  case mode =>
    rw [enforcedRegisters_regRunningMode]
    exact observedMode_correctedMode shadow
  case heatingSuppressed =>
    intro mode
    rw [enforcedRegisters_regHeatingTarget]
    exact enforcedHeating_le mode _
  case dhwSuppressed =>
    intro mode
    rw [enforcedRegisters_regDhwTarget]
    exact enforcedDhw_le mode _
  case dhwRestored =>
    intro mode
    rw [enforcedRegisters_regDhwTarget]
    exact enforcedDhw_close mode polled.dhw _
  case heatingRestored =>
    intro mode
    rw [enforcedRegisters_regHeatingTarget]
    exact enforcedHeating_close mode polled.heating _
  case priority =>
    intro required demanded
    exact congrArg (fun demand => demand.getD loop.currentPriority) demanded

/--
A target is restored: the loop does not tell it from the saved one, so that it
lies within half a degree, up to float rounding if that is no exact tenth.
-/
structure Restored (raw : Word) (saved : ℚ) : Prop where
  same : ¬ Apart (rawToTemp raw) saved
  near : |rawToTemp raw - saved| < 501 / 1000
  tenth : IsTenth saved → |rawToTemp raw - saved| ≤ 1 / 2

theorem restored_of_not_apart {raw : Word} {saved : ℚ}
    (fits : Representable saved) (same : ¬ Apart (rawToTemp raw) saved) :
    Restored raw saved where
  same := same
  near :=
    not_le.mp fun far =>
      same (apart_of_far (representable_rawToTemp raw) fits far)
  tenth tenth :=
    abs_sub_le_of_not_apart (representable_rawToTemp raw) fits
      (isTenth_rawToTemp raw) tenth same

/--
Suppression and restoring take effect within the iteration: on any device
contents and any queued commands, the targets fit the mode in force at its end.
-/
theorem iteration_targets_in_force {loop : ControlLoop}
    (reachable : Reachable loop) (registers : RegisterFile)
    (history : List Event) {batch : List Command}
    (inRange : ∀ cmd ∈ batch, cmd.SetpointInRange) :
    let after :=
      iteration registerFile batch
        { loop := loop, bus := { device := registers, history := history } }
    (after.loop.desiredWorkingMode = 1 →
        rawToTemp (after.bus.device regHeatingTarget) ≤ 51 / 2) ∧
      (after.loop.desiredWorkingMode = 2 →
        rawToTemp (after.bus.device regDhwTarget) ≤ 81 / 2) ∧
      (after.loop.desiredWorkingMode = 3 →
        Restored (after.bus.device regDhwTarget) after.loop.savedDhwTarget ∧
          Restored (after.bus.device regHeatingTarget)
            after.loop.savedHeatingTarget) := by
  intro after
  let world : World RegisterFile :=
    { loop := loop, bus := { device := registers, history := history } }
  have bounded : Bounded world.loop := reachable.bounded
  have kept : Bounded after.loop := bounded.iteration registerFile inRange
  have settled : Settled after.loop after.bus.device :=
    iteration_settled bounded inRange
  refine ⟨?_, ?_, ?_⟩
  · intro mode
    refine (settled.heatingSuppressed mode).trans_eq ?_
    norm_num [heatingTargetMin]
  · intro mode
    refine (settled.dhwSuppressed mode).trans_eq ?_
    norm_num [dhwTargetMin]
  · intro mode
    exact ⟨restored_of_not_apart kept.dhw (settled.dhwRestored mode),
      restored_of_not_apart kept.heating (settled.heatingRestored mode)⟩

theorem iteration_targets_in_force_dhwOnly :
    let start := threadRun registerFile
      (ControlLoop.setInitialSettings {} 3 "dhw" 45 40) (fun _ => 0) []
    let after := iteration registerFile
      [{ type := .setRunningMode, intVal := 1 },
        { type := .setHeatingTemp, floatVal := 50 }] start
    rawToTemp (after.bus.device regHeatingTarget) ≤ 51 / 2 := by
  intro start after
  have reachable : Reachable start.loop :=
    ⟨RegisterFile, registerFile, fun _ => 0, 3, "dhw", 45, 40, [],
      by simp, rfl⟩
  refine (iteration_targets_in_force reachable start.bus.device
    start.bus.history (by decide +kernel)).1 (by decide +kernel)

/-! ## A settled device is left alone -/

/-- No register was written and no settings callback fired in between. -/
def Quiet (earlier later : World RegisterFile) : Prop :=
  Adds (fun event => ¬ event.IsAction) earlier later

section

variable {loop : ControlLoop} {registers : RegisterFile}

/-- A poll of a settled device only brings the memory up to date. -/
theorem Settled.observed_eq (settled : Settled loop registers) :
    observed registers loop =
      { loop with
        currentMode := desiredDeviceMode loop.desiredWorkingMode
        lastHeatingTarget := rawToTemp (registers regHeatingTarget) } := by
  rw [observed, observe_eq]
  simp only [contents, settled.mode, settled.initialized, observedTarget]
  rfl

theorem Settled.poll (settled : Settled loop registers) :
    Settled (observed registers loop) registers := by
  rw [settled.observed_eq]
  constructor
  case mode =>
    rw [← settled.mode]
    exact observedMode_idem _ _
  case initialized => exact settled.initialized
  case heatingSuppressed => exact settled.heatingSuppressed
  case dhwSuppressed => exact settled.dhwSuppressed
  case dhwRestored => exact settled.dhwRestored
  case heatingRestored => exact settled.heatingRestored
  case priority => exact settled.priority

end

theorem correctDeviceMode_idle {world : World RegisterFile}
    (agrees : world.loop.currentMode =
      desiredDeviceMode world.loop.desiredWorkingMode) :
    correctDeviceMode registerFile world = world := by
  simp [correctDeviceMode, agrees]

theorem enforceTargets_idle {status : StatusSnapshot}
    {world : World RegisterFile} (polled : Polled status world.bus.device)
    (settled : Settled world.loop world.bus.device) :
    enforceTargets registerFile status world = world := by
  unfold enforceTargets
  split
  next mode =>
    rw [polled.heating]
    exact if_neg (not_lt.mpr (settled.heatingSuppressed mode))
  next mode =>
    rw [polled.dhw]
    exact if_neg (not_lt.mpr (settled.dhwSuppressed mode))
  next mode =>
    have dhw : restoreDhwTarget registerFile status world = world := by
      rw [restoreDhwTarget, polled.dhw]
      exact if_neg (settled.dhwRestored mode)
    rw [dhw, restoreHeatingTarget, polled.heating]
    exact if_neg (settled.heatingRestored mode)
  next => rfl

theorem enforcePriority_idle {world : World RegisterFile}
    (settled : Settled world.loop world.bus.device) :
    enforcePriority registerFile world = world := by
  unfold enforcePriority
  split
  next mode =>
    have current := settled.priority .dhw (by rw [mode]; rfl)
    exact if_neg (not_not.mpr current)
  next mode =>
    have current := settled.priority .dhw (by rw [mode]; rfl)
    exact if_neg (not_not.mpr current)
  next mode =>
    have current := settled.priority .heating (by rw [mode]; rfl)
    exact if_neg (not_not.mpr current)
  next => rfl

theorem quiet_polledWorld (world : World RegisterFile) :
    Quiet world (polledWorld world) := by
  have polled := readStatus_adds registerFile world {}
  rw [readStatus_registerFile] at polled
  refine polled.mono ?_
  rintro event ⟨address, outcome, rfl⟩
  exact not_false

/-- An iteration over a settled device and no commands only polls. -/
theorem Settled.idle {world : World RegisterFile}
    (settled : Settled world.loop world.bus.device) :
    let after := iteration registerFile [] world
    after.loop = observed world.bus.device world.loop ∧
      after.bus.device = world.bus.device ∧ Quiet world after := by
  intro after
  let polled := polledWorld world
  have status : Polled (polledStatus world) polled.bus.device :=
    pollFrame_polled world.bus.device world.loop
  have stillSettled : Settled polled.loop polled.bus.device :=
    settled.poll
  have agrees : polled.loop.currentMode =
      desiredDeviceMode polled.loop.desiredWorkingMode := by
    change (observed world.bus.device world.loop).currentMode =
      desiredDeviceMode
        (observed world.bus.device world.loop).desiredWorkingMode
    rw [settled.observed_eq]
  have idle :
      applyControlLogic registerFile (polledStatus world) polled =
        polled.emit .control := by
    have corrected :
        correctDeviceMode registerFile (polled.emit .control) =
          polled.emit .control :=
      correctDeviceMode_idle agrees
    have targets :
        enforceTargets registerFile (polledStatus world)
            (polled.emit .control) =
          polled.emit .control :=
      enforceTargets_idle status stillSettled
    have priority :
        enforcePriority registerFile (polled.emit .control) =
          polled.emit .control :=
      enforcePriority_idle stillSettled
    simp only [applyControlLogic, corrected, targets, priority]
  have whole := iteration_registerFile [] world
  have commanded : processCommands registerFile [] world = world := rfl
  simp only [commanded, idle, polled] at whole
  refine ⟨?_, ?_, ?_⟩
  · exact congrArg World.loop whole
  · exact congrArg (fun world => world.bus.device) whole
  · rw [show after = _ from whole]
    have entered : Quiet world ((polledWorld world).emit .control) :=
      (quiet_polledWorld world).emit not_false
    exact entered.emit not_false

/-- Any number of idle iterations after the first one changes nothing. -/
theorem Settled.idle_iterate {world : World RegisterFile}
    (settled : Settled world.loop world.bus.device)
    (fresh : observed world.bus.device world.loop = world.loop) (n : Nat) :
    let after := (iteration registerFile [])^[n] world
    after.loop = world.loop ∧ after.bus.device = world.bus.device ∧
      Quiet world after := by
  intro after
  induction n with
  | zero => exact ⟨rfl, rfl, Adds.refl world⟩
  | succ n ih =>
      let before := (iteration registerFile [])^[n] world
      rcases ih with ⟨loopBefore, deviceBefore, quietBefore⟩
      have settledBefore : Settled before.loop before.bus.device := by
        rw [loopBefore, deviceBefore]
        exact settled
      rcases settledBefore.idle with ⟨loopAfter, deviceAfter, quietAfter⟩
      have step : after = iteration registerFile [] before :=
        Function.iterate_succ_apply' ..
      rw [step]
      refine ⟨?_, deviceAfter.trans deviceBefore,
        quietBefore.trans quietAfter⟩
      rw [loopAfter, loopBefore, deviceBefore, fresh]

/--
The loop is quiescent once it has acted: after any iteration a second one
without commands writes no register and fires no settings callback, and every
further one leaves the control state and the registers as they are.
-/
theorem iteration_quiescent {loop : ControlLoop}
    (reachable : Reachable loop) (registers : RegisterFile)
    (history : List Event) {batch : List Command}
    (inRange : ∀ cmd ∈ batch, cmd.SetpointInRange) :
    let first :=
      iteration registerFile batch
        { loop := loop, bus := { device := registers, history := history } }
    let second := iteration registerFile [] first
    Quiet first second ∧ second.bus.device = first.bus.device ∧
      ∀ n,
        let further := (iteration registerFile [])^[n] second
        further.loop = second.loop ∧
          further.bus.device = second.bus.device ∧
            Quiet second further := by
  intro first second
  have settled : Settled first.loop first.bus.device :=
    iteration_settled reachable.bounded inRange
  rcases settled.idle with ⟨loopEqual, deviceEqual, quiet⟩
  have settledAgain : Settled second.loop second.bus.device := by
    rw [loopEqual, deviceEqual]
    exact settled.poll
  have fresh : observed second.bus.device second.loop = second.loop := by
    rw [settledAgain.observed_eq, loopEqual, deviceEqual,
      settled.observed_eq]
  exact ⟨quiet, deviceEqual, settledAgain.idle_iterate fresh⟩

theorem iteration_quiescent_heatingOnly :
    let start := threadRun registerFile
      (ControlLoop.setInitialSettings {} 3 "dhw" 45 40) (fun _ => 0) []
    let first := iteration registerFile
      [{ type := .setRunningMode, intVal := 2 },
        { type := .setDhwTemp, floatVal := 50 }] start
    Quiet first (iteration registerFile [] first) := by
  intro start first
  have reachable : Reachable start.loop :=
    ⟨RegisterFile, registerFile, fun _ => 0, 3, "dhw", 45, 40, [],
      by simp, rfl⟩
  exact (iteration_quiescent reachable start.bus.device
    start.bus.history (by decide +kernel)).1

/-! ## The running mode found on the device -/

theorem eq_desiredDeviceMode_iff (workingMode : Int) (raw : Word) :
    raw = BitVec.ofInt 16 (desiredDeviceMode workingMode) ↔
      raw.toInt = desiredDeviceMode workingMode := by
  rw [← BitVec.toInt_inj, toInt_desiredDeviceMode]

/-- The registers are corrected exactly if the found mode can be seen. -/
theorem correctedMode_eq_iff {loop : ControlLoop} {raw : Word}
    {previous : Int}
    (polled : loop.currentMode = observedMode (some raw) previous) :
    correctedMode loop raw =
        BitVec.ofInt 16 (desiredDeviceMode loop.desiredWorkingMode) ↔
      raw.toInt = 0 ∨ raw.toInt = 1 ∨ raw.toInt = 2 ∨
        previous ≠ desiredDeviceMode loop.desiredWorkingMode := by
  have range := desiredDeviceMode_mem loop.desiredWorkingMode
  simp only [observedMode, Option.elim_some] at polled
  unfold correctedMode
  split_ifs at polled with observable
  · rw [polled]
    split_ifs with different
    · exact iff_of_true rfl (by omega)
    · rw [eq_desiredDeviceMode_iff]
      exact iff_of_true (not_not.mp different) (by omega)
  · rw [polled]
    split_ifs with different
    · exact iff_of_true rfl (by omega)
    · rw [eq_desiredDeviceMode_iff]
      refine iff_of_false ?_ (by omega)
      intro equal
      exact observable (by rw [equal]; exact range)

/--
An iteration without commands corrects `REG_RUNNING_MODE` exactly if it finds
one of the three modes that the shadow mode follows, or if the shadow mode
differs from the demanded one anyway.  Any other content stays.
-/
theorem iteration_corrects_mode_iff (loop : ControlLoop)
    (registers : RegisterFile) (history : List Event) :
    let content := (registers regRunningMode).toInt
    let demanded : Int := if loop.desiredWorkingMode = 0 then 0 else 2
    let observable :=
      content = 0 ∨ content = 1 ∨ content = 2 ∨ loop.currentMode ≠ demanded
    let after :=
      iteration registerFile []
        { loop := loop, bus := { device := registers, history := history } }
    (after.bus.device regRunningMode =
        (if after.loop.desiredWorkingMode = 0 then 0 else 2) ↔
          observable) ∧
      (¬ observable →
        after.bus.device regRunningMode = registers regRunningMode) := by
  intro content demanded observable after
  let world : World RegisterFile :=
    { loop := loop, bus := { device := registers, history := history } }
  let polled := observed registers loop
  have sameMode : polled.desiredWorkingMode = loop.desiredWorkingMode :=
    observe_desiredWorkingMode _ loop
  have shadow : polled.currentMode =
      observedMode (some (registers regRunningMode)) loop.currentMode :=
    congrArg ControlLoop.currentMode (observe_eq _ loop)
  have register : after.bus.device regRunningMode =
      correctedMode polled (registers regRunningMode) := by
    have device : after.bus.device = enforcedRegisters polled registers :=
      iteration_device [] world
    rw [device, enforcedRegisters_regRunningMode]
  rcases iteration_loop [] world with ⟨dhw, heating, loopEqual⟩
  have finalMode : after.loop.desiredWorkingMode = loop.desiredWorkingMode :=
    (congrArg ControlLoop.desiredWorkingMode loopEqual).trans sameMode
  have word : (if after.loop.desiredWorkingMode = 0 then (0 : Word) else 2) =
      BitVec.ofInt 16 (desiredDeviceMode polled.desiredWorkingMode) := by
    rw [desiredDeviceMode_eq, finalMode, sameMode]
    split_ifs <;> rfl
  have seen := correctedMode_eq_iff shadow
  rw [sameMode, desiredDeviceMode_eq] at seen
  rw [register, word, sameMode, desiredDeviceMode_eq]
  refine ⟨seen, ?_⟩
  intro hidden
  unfold correctedMode
  have agrees : polled.currentMode =
      desiredDeviceMode polled.desiredWorkingMode := by
    rw [shadow, sameMode, desiredDeviceMode_eq]
    simp only [observable, content, demanded] at hidden
    simp only [observedMode, Option.elim_some]
    split_ifs at hidden ⊢ <;> omega
  rw [agrees]
  exact if_neg (not_not.mpr rfl)

/-- Under Off, a unit found in the mode "heat only" keeps heating. -/
theorem iteration_leaves_heatOnly_under_off :
    let loop := (threadRun registerFile
      (ControlLoop.setInitialSettings {} 0 "dhw" 45 40) (fun _ => 0) []).loop
    let after :=
      iteration registerFile []
        { loop := loop
          bus :=
            { device := Function.update (fun _ => 0) regRunningMode 4
              history := [] } }
    Reachable loop ∧ after.bus.device regRunningMode = 4 ∧
      ¬ after.bus.device regRunningMode =
        (if after.loop.desiredWorkingMode = 0 then 0 else 2) := by
  intro loop after
  refine ⟨?_, ?_, ?_⟩
  · exact ⟨RegisterFile, registerFile, fun _ => 0, 0, "dhw", 45, 40, [],
      by simp, rfl⟩
  · decide +kernel
  · decide +kernel

end Windmi.Core
