import Windmi.Core.DerivedFields

/-!
# Failing reads keep to themselves

What `readStatus` makes of a device with one more, or one other, outcome of a
single read: only the fields that belong to its register change, in the
snapshot and in the loop.
-/

namespace Windmi.Core

open Windmi.Modbus

/-! ## A device with failing reads -/

/-- Register contents, and the addresses whose reads throw. -/
structure FailingRegisters where
  contents : RegisterFile
  failing : Address → Bool

def FailingRegisters.outcome (device : FailingRegisters) : Outcomes :=
  fun address =>
    if device.failing address then none else some (device.contents address)

def failingRegisters : IModbusClient FailingRegisters where
  connect device := (true, device)
  disconnect device := device
  isConnected _ := true
  readRegister address device := (device.outcome address, device)
  writeRegister address value device :=
    (true,
      { device with
        contents := Function.update device.contents address value })
  flushBuffer device := device

theorem readStatus_failingRegisters (status : StatusSnapshot)
    (world : World FailingRegisters) :
    readStatus failingRegisters status world =
      pollWith world.bus.device.outcome world.bus.device status world :=
  readStatus_steady (fun _ => rfl) status

/-! ## What belongs to a register -/

/-- The registers that the power is calculated from. -/
def powerRegisters : List Address :=
  [regAcCurrent, regAcVoltage]

def heatRegisters : List Address :=
  regLeavingWaterTemp :: regEnteringWaterTemp :: regWaterFlow ::
    powerRegisters

/-- A snapshot with the fields of one register taken from another snapshot. -/
def StatusSnapshot.adopt (address : Address)
    (status other : StatusSnapshot) : StatusSnapshot where
  outdoorTemp :=
    if address = regOutdoorTemp then other.outdoorTemp
    else status.outdoorTemp
  indoorTemp :=
    if address = regIndoorTemp then other.indoorTemp else status.indoorTemp
  leavingWaterTemp :=
    if address = regLeavingWaterTemp then other.leavingWaterTemp
    else status.leavingWaterTemp
  enteringWaterTemp :=
    if address = regEnteringWaterTemp then other.enteringWaterTemp
    else status.enteringWaterTemp
  dhwTankTemp :=
    if address = regDhwTankTemp then other.dhwTankTemp
    else status.dhwTankTemp
  dhwTarget :=
    if address = regDhwTarget then other.dhwTarget else status.dhwTarget
  heatingTarget :=
    if address = regHeatingTarget then other.heatingTarget
    else status.heatingTarget
  runningMode :=
    if address = regRunningMode then other.runningMode
    else status.runningMode
  runningStatus :=
    if address = regRunningStatus then other.runningStatus
    else status.runningStatus
  dhwPriority :=
    if address = regDhwPriority then other.dhwPriority
    else status.dhwPriority
  isRunning :=
    if address = regRunningStatus then other.isRunning else status.isRunning
  deviceOnline :=
    if address ∈ criticalRegisters then other.deviceOnline
    else status.deviceOnline
  acCurrent :=
    if address = regAcCurrent then other.acCurrent else status.acCurrent
  dcCurrent :=
    if address = regDcCurrent then other.dcCurrent else status.dcCurrent
  acVoltage :=
    if address = regAcVoltage then other.acVoltage else status.acVoltage
  dcVoltage :=
    if address = regDcVoltage then other.dcVoltage else status.dcVoltage
  acPowerVa :=
    if address ∈ powerRegisters then other.acPowerVa else status.acPowerVa
  acPowerW :=
    if address ∈ powerRegisters then other.acPowerW else status.acPowerW
  powerValid :=
    if address ∈ powerRegisters then other.powerValid else status.powerValid
  compressorFreq :=
    if address = regCompressorFreq then other.compressorFreq
    else status.compressorFreq
  waterFlow :=
    if address = regWaterFlow then other.waterFlow else status.waterFlow
  unitCapacityKw :=
    if address = regUnitCapacity then other.unitCapacityKw
    else status.unitCapacityKw
  actualCapacityOutput :=
    if address = regActualCapacityOutput then other.actualCapacityOutput
    else status.actualCapacityOutput
  dhwValveStatus :=
    if address = regDhwValveStatus then other.dhwValveStatus
    else status.dhwValveStatus
  dhwModeStatus :=
    if address = regDhwModeStatus then other.dhwModeStatus
    else status.dhwModeStatus
  oduInputStatus :=
    if address = regOduInputStatus then other.oduInputStatus
    else status.oduInputStatus
  compressorRuntimeH :=
    if address = regCompressorRuntime then other.compressorRuntimeH
    else status.compressorRuntimeH
  pumpRuntimeH :=
    if address = regPumpRuntime then other.pumpRuntimeH
    else status.pumpRuntimeH
  heatOutputW :=
    if address ∈ heatRegisters then other.heatOutputW else status.heatOutputW
  cop := if address ∈ heatRegisters then other.cop else status.cop
  copValid :=
    if address ∈ heatRegisters then other.copValid else status.copValid
  workingMode := status.workingMode
  occupancyMode :=
    if address = regOccupancyMode then other.occupancyMode
    else status.occupancyMode

def ControlLoop.adopt (address : Address) (loop other : ControlLoop) :
    ControlLoop where
  currentPriority := loop.currentPriority
  currentMode :=
    if address = regRunningMode then other.currentMode else loop.currentMode
  desiredWorkingMode := loop.desiredWorkingMode
  lastHeatingTarget :=
    if address = regHeatingTarget then other.lastHeatingTarget
    else loop.lastHeatingTarget
  savedDhwTarget :=
    if address = regDhwTarget then other.savedDhwTarget
    else loop.savedDhwTarget
  savedHeatingTarget :=
    if address = regHeatingTarget then other.savedHeatingTarget
    else loop.savedHeatingTarget
  savedTargetsInitialized :=
    if address ∈ criticalRegisters then other.savedTargetsInitialized
    else loop.savedTargetsInitialized
  mDhwTarget := loop.mDhwTarget
  mHeatingTarget := loop.mHeatingTarget

attribute [ext] StatusSnapshot ControlLoop

/-- A field which only its owner changes. -/
theorem eq_ite_of_unowned {Value : Type} {owned : Prop} [Decidable owned]
    {theirs ours : Value} (same : ¬ owned → theirs = ours) :
    theirs = if owned then theirs else ours := by
  by_cases mine : owned
  · exact (if_pos mine).symm
  · exact (same mine).trans (if_neg mine).symm

theorem truthValue_injective {first second : Bool}
    (equal : truthValue first = truthValue second) : first = second := by
  cases first <;> cases second <;> first | rfl | simp [truthValue] at equal

theorem heatOf_congr {first second : StatusSnapshot}
    (flow : second.waterFlow = first.waterFlow)
    (leaving : second.leavingWaterTemp = first.leavingWaterTemp)
    (entering : second.enteringWaterTemp = first.enteringWaterTemp)
    (powerW : second.acPowerW = first.acPowerW)
    (powerValid : second.powerValid = first.powerValid) :
    heatOf second = heatOf first := by
  have heats : second.Heats ↔ first.Heats := by
    unfold StatusSnapshot.Heats
    rw [flow, leaving, entering, powerValid]
  have output : heatOutput second = heatOutput first := by
    unfold heatOutput
    rw [flow, leaving, entering]
  simp only [heatOf, heats, output, powerW]

/-! ## One outcome more or less -/

section

variable {address : Address} {first second : Outcomes}
  (agree : ∀ other, other ≠ address → second other = first other)
  (status : StatusSnapshot) (loop : ControlLoop)

include agree

theorem field_isolated (field : SnapshotField)
    (member : field ∈ snapshotFields) (foreign : ¬ address = field.address) :
    field.value (pollFrame second status loop).status =
      field.value (pollFrame first status loop).status := by
  rw [pollFrame_field member, pollFrame_field member,
    agree field.address (Ne.symm foreign)]

theorem power_isolated (foreign : address ∉ powerRegisters) :
    (pollFrame second status loop).status.power =
      (pollFrame first status loop).status.power := by
  simp only [powerRegisters, List.mem_cons, List.not_mem_nil, or_false,
    not_or] at foreign
  rw [pollFrame_power, pollFrame_power, agree _ (Ne.symm foreign.1),
    agree _ (Ne.symm foreign.2)]

theorem heat_isolated (foreign : address ∉ heatRegisters) :
    (pollFrame second status loop).status.heat =
      (pollFrame first status loop).status.heat := by
  simp only [heatRegisters, List.mem_cons, not_or] at foreign
  rcases foreign with ⟨leavingForeign, enteringForeign, flowForeign, rest⟩
  have power := power_isolated agree status loop rest
  have powerW := congrArg Power.w power
  have powerValid := congrArg Power.valid power
  have leaving := field_isolated agree status loop leavingWaterTempField
    (by simp [snapshotFields, temperatureFields]) leavingForeign
  have entering := field_isolated agree status loop enteringWaterTempField
    (by simp [snapshotFields, temperatureFields]) enteringForeign
  have flow := field_isolated agree status loop waterFlowField
    (by simp [snapshotFields, reportFields]) flowForeign
  rw [pollFrame_heat, pollFrame_heat]
  exact heatOf_congr flow leaving entering powerW powerValid

theorem pollOk_isolated (foreign : address ∉ criticalRegisters) :
    pollOk second = pollOk first := by
  rw [Bool.eq_iff_iff, pollOk, pollOk, List.all_eq_true, List.all_eq_true]
  refine forall₂_congr fun critical member => ?_
  rw [agree critical fun same => foreign (same ▸ member)]

theorem own_isolated {Value : Type} (field : SnapshotField)
    (member : field ∈ snapshotFields) (value : StatusSnapshot → Value)
    {embed : Value → ℚ} (injective : Function.Injective embed)
    (same : field.value = fun status => embed (value status)) :
    value (pollFrame second status loop).status =
      if address = field.address then
        value (pollFrame second status loop).status
      else
        value (pollFrame first status loop).status := by
  refine eq_ite_of_unowned fun foreign => ?_
  have equal := field_isolated agree status loop field member foreign
  rw [same] at equal
  exact injective equal

omit agree in
theorem pollFrame_workingMode (outcome : Outcomes) :
    (pollFrame outcome status loop).status.workingMode =
      status.workingMode := by
  have kept : ∀ block ∈ readStatusBlocks,
      block.Keeps fun frame => frame.status.workingMode := by
    simp only [readStatusBlocks, temperatureBlocks, reportBlocks,
      List.cons_append, List.nil_append, List.forall_mem_cons]
    and_intros
    all_goals first
      | exact Block.keeps_poll (fun _ _ => rfl) (fun _ => rfl)
      | exact calculatePower_keeps fun _ _ _ _ => rfl
      | exact calculateCop_keeps fun _ _ _ _ => rfl
      | exact fun _ _ => rfl
      | exact List.forall_mem_nil _
  exact applyBlocks_keeps kept outcome { loop := loop, status := status }

/-- Another outcome of one read reaches no foreign field of the snapshot. -/
theorem pollFrame_status_isolated :
    (pollFrame second status loop).status =
      (pollFrame first status loop).status.adopt address
        (pollFrame second status loop).status := by
  have real (field : SnapshotField) (member : field ∈ snapshotFields) :=
    own_isolated agree status loop field member field.value
      Function.injective_id rfl
  have int (field : SnapshotField) (value : StatusSnapshot → Int)
      (member : field ∈ snapshotFields) :=
    own_isolated agree status loop field member value
      (Int.cast_injective (α := ℚ))
  have truth (field : SnapshotField) (value : StatusSnapshot → Bool)
      (member : field ∈ snapshotFields) :=
    own_isolated agree status loop field member value @truthValue_injective
  have power := power_isolated agree status loop
  have heat := heat_isolated agree status loop
  have online (foreign : address ∉ criticalRegisters) :
      (pollFrame second status loop).status.deviceOnline =
        (pollFrame first status loop).status.deviceOnline := by
    rw [pollFrame_deviceOnline, pollFrame_deviceOnline]
    exact pollOk_isolated agree foreign
  have working : (pollFrame second status loop).status.workingMode =
      (pollFrame first status loop).status.workingMode :=
    (pollFrame_workingMode status loop second).trans
      (pollFrame_workingMode status loop first).symm
  apply StatusSnapshot.ext
  all_goals simp only [StatusSnapshot.adopt]
  · exact real outdoorTempField (by simp [snapshotFields, temperatureFields])
  · exact real indoorTempField (by simp [snapshotFields, temperatureFields])
  · exact real leavingWaterTempField
      (by simp [snapshotFields, temperatureFields])
  · exact real enteringWaterTempField
      (by simp [snapshotFields, temperatureFields])
  · exact real dhwTankTempField (by simp [snapshotFields, temperatureFields])
  · exact real dhwTargetField (by simp [snapshotFields, temperatureFields])
  · exact real heatingTargetField (by simp [snapshotFields])
  · exact int runningModeField (·.runningMode)
      (by simp [snapshotFields, temperatureFields]) rfl
  · exact int runningStatusField (·.runningStatus)
      (by simp [snapshotFields, temperatureFields]) rfl
  · exact truth dhwPriorityField (·.dhwPriority)
      (by simp [snapshotFields, reportFields]) rfl
  · exact truth isRunningField (·.isRunning)
      (by simp [snapshotFields, temperatureFields]) rfl
  · exact eq_ite_of_unowned online
  · exact real acCurrentField (by simp [snapshotFields, reportFields])
  · exact real dcCurrentField (by simp [snapshotFields, reportFields])
  · exact real acVoltageField (by simp [snapshotFields, reportFields])
  · exact real dcVoltageField (by simp [snapshotFields, reportFields])
  · exact eq_ite_of_unowned fun foreign => congrArg Power.va (power foreign)
  · exact eq_ite_of_unowned fun foreign => congrArg Power.w (power foreign)
  · exact eq_ite_of_unowned fun foreign => congrArg Power.valid (power foreign)
  · exact real compressorFreqField (by simp [snapshotFields, reportFields])
  · exact real waterFlowField (by simp [snapshotFields, reportFields])
  · exact int unitCapacityField (·.unitCapacityKw)
      (by simp [snapshotFields, reportFields]) rfl
  · exact int actualCapacityOutputField (·.actualCapacityOutput)
      (by simp [snapshotFields, reportFields]) rfl
  · exact int dhwValveStatusField (·.dhwValveStatus)
      (by simp [snapshotFields, reportFields]) rfl
  · exact int dhwModeStatusField (·.dhwModeStatus)
      (by simp [snapshotFields, reportFields]) rfl
  · exact int oduInputStatusField (·.oduInputStatus)
      (by simp [snapshotFields, reportFields]) rfl
  · exact int compressorRuntimeField (·.compressorRuntimeH)
      (by simp [snapshotFields, reportFields]) rfl
  · exact int pumpRuntimeField (·.pumpRuntimeH)
      (by simp [snapshotFields, reportFields]) rfl
  · exact eq_ite_of_unowned fun foreign => congrArg Heat.output (heat foreign)
  · exact eq_ite_of_unowned fun foreign => congrArg Heat.cop (heat foreign)
  · exact eq_ite_of_unowned fun foreign => congrArg Heat.valid (heat foreign)
  · exact working
  · exact int occupancyModeField (·.occupancyMode)
      (by simp [snapshotFields, reportFields]) rfl

/-- Nor does it reach a foreign field of the loop. -/
theorem observe_isolated :
    observe second loop = (observe first loop).adopt address
      (observe second loop) := by
  have ok := pollOk_isolated agree
  rw [observe_eq, observe_eq]
  apply ControlLoop.ext
  all_goals simp only [ControlLoop.adopt]
  all_goals refine eq_ite_of_unowned fun foreign => ?_
  · rw [agree _ (Ne.symm foreign)]
  · rw [agree _ (Ne.symm foreign)]
  · rw [agree _ (Ne.symm foreign)]
  · rw [agree _ (Ne.symm foreign)]
  · rw [ok foreign]

end

/-! ## Two polls -/

/-- The two devices agree in every register but one. -/
def FailingRegisters.AgreesBut (address : Address)
    (device changed : FailingRegisters) : Prop :=
  ∀ other, other ≠ address → changed.outcome other = device.outcome other

theorem pollOk_failingRegisters (device : FailingRegisters) :
    pollOk device.outcome = true ↔
      ∀ critical ∈ criticalRegisters, device.failing critical = false := by
  rw [pollOk, List.all_eq_true]
  refine forall₂_congr fun critical member => ?_
  cases failing : device.failing critical with
  | false => simp [FailingRegisters.outcome, failing]
  | true => simp [FailingRegisters.outcome, failing]

/--
Whatever happens to the read of one register, the poll changes in what belongs
to that register and in nothing else; and it succeeds exactly when no critical
read fails.
-/
theorem readStatus_isolates (address : Address)
    (device changed : FailingRegisters)
    (agree : device.AgreesBut address changed)
    (status : StatusSnapshot) (loop : ControlLoop) (history : List Event) :
    let poll := fun device : FailingRegisters =>
      readStatus failingRegisters status
        { loop := loop, bus := { device := device, history := history } }
    let before := poll device
    let after := poll changed
    after.status = before.status.adopt address after.status ∧
      after.world.loop = before.world.loop.adopt address after.world.loop ∧
      (address ∉ criticalRegisters → after.ok = before.ok) ∧
      (before.ok = true ↔
        ∀ critical ∈ criticalRegisters, device.failing critical = false) := by
  intro poll before after
  have spec (polled : FailingRegisters) : poll polled =
      pollWith polled.outcome polled status
        { loop := loop, bus := { device := polled, history := history } } :=
    readStatus_failingRegisters status _
  simp only [before, after, spec, pollWith]
  and_intros
  · exact pollFrame_status_isolated agree status loop
  · exact observe_isolated agree loop
  · exact pollOk_isolated agree
  · exact pollOk_failingRegisters device

/-- A device that answers everything. -/
def answeringRegisters : FailingRegisters where
  contents _ := 215
  failing _ := false

/-- The same device, but the read of the entering water fails. -/
def withoutEnteringWater : FailingRegisters where
  contents _ := 215
  failing address := address == regEnteringWaterTemp

theorem readStatus_isolates_enteringWater :
    let poll := fun device : FailingRegisters =>
      readStatus failingRegisters {}
        { loop := {}, bus := { device := device, history := [] } }
    let before := poll answeringRegisters
    let after := poll withoutEnteringWater
    after.status = before.status.adopt regEnteringWaterTemp after.status ∧
      after.world.loop =
        before.world.loop.adopt regEnteringWaterTemp after.world.loop ∧
      (regEnteringWaterTemp ∉ criticalRegisters → after.ok = before.ok) ∧
      (before.ok = true ↔ ∀ critical ∈ criticalRegisters,
        answeringRegisters.failing critical = false) := by
  refine readStatus_isolates regEnteringWaterTemp answeringRegisters
    withoutEnteringWater ?_ {} {} []
  intro other foreign
  simp [FailingRegisters.outcome, answeringRegisters, withoutEnteringWater,
    foreign]

end Windmi.Core
