import Windmi.Core.SnapshotFields

/-!
# Power and heat in a snapshot

The fields of a snapshot that come from several registers.  The power follows
from what the reads of current and voltage give, and heat output and efficiency
follow from the other fields of the finished snapshot.
-/

namespace Windmi.Core

open Windmi.Modbus

/-! ## Power -/

structure Power where
  va : ℚ
  w : ℚ
  valid : Bool
  deriving DecidableEq

/-- Without both readings there is no power. -/
def powerOf : Option Word → Option Word → Power
  | some current, some voltage =>
      { va := voltage.toInt * (current.toInt * 2)
        w := voltage.toInt * (current.toInt * 2) * estimatedPowerFactor
        valid := true }
  | _, _ => { va := 0, w := 0, valid := false }

def StatusSnapshot.power (status : StatusSnapshot) : Power where
  va := status.acPowerVa
  w := status.acPowerW
  valid := status.powerValid

theorem powerOf_valid_iff {current voltage : Option Word} :
    (powerOf current voltage).valid = true ↔
      current.isSome ∧ voltage.isSome := by
  cases current <;> cases voltage <;> simp [powerOf]

/-- A reading in the variables of the power block, with its flag. -/
def reading (outcome : Option Word) (scale : ℚ) : Bool × ℚ :=
  outcome.elim (false, 0) fun raw => (true, raw.toInt * scale)

def currentInput (frame : Frame) : Bool × ℚ :=
  (frame.gotCurrent, frame.acCurrent)

def voltageInput (frame : Frame) : Bool × ℚ :=
  (frame.gotVoltage, frame.acVoltage)

def blocksBeforePower : List Block :=
  temperatureBlocks ++
    [readRunningMode, readRunningStatus, readDhwTarget, readHeatingTarget,
      readDhwPriority, readOccupancyMode]

def powerReads : List Block :=
  [readAcCurrent, readDcCurrent, readAcVoltage, readDcVoltage]

def diagnosticBlocks : List Block :=
  [readUnitCapacity, readCompressorFreq, readWaterFlow,
    readActualCapacityOutput, readDhwValveStatus, readDhwModeStatus,
    readOduInputStatus, readCompressorRuntime, readPumpRuntime]

theorem readStatusBlocks_eq :
    readStatusBlocks =
      (blocksBeforePower ++ powerReads) ++
        calculatePower :: (diagnosticBlocks ++ [calculateCop, concludePoll]) :=
  rfl

theorem blocksBeforePower_keep :
    ∀ block ∈ blocksBeforePower,
      block.Keeps currentInput ∧ block.Keeps voltageInput := by
  simp only [blocksBeforePower, temperatureBlocks, List.cons_append,
    List.nil_append, List.forall_mem_cons]
  and_intros
  all_goals first
    | exact Block.keeps_poll (fun _ _ => rfl) (fun _ => rfl)
    | exact List.forall_mem_nil _

theorem blocksAfterPower_keep :
    ∀ block ∈ diagnosticBlocks ++ [calculateCop, concludePoll],
      block.Keeps fun frame => frame.status.power := by
  simp only [diagnosticBlocks, List.cons_append, List.nil_append,
    List.forall_mem_cons]
  and_intros
  all_goals first
    | exact Block.keeps_poll (fun _ _ => rfl) (fun _ => rfl)
    | exact calculateCop_keeps fun _ _ _ _ => rfl
    | exact fun _ _ => rfl
    | exact List.forall_mem_nil _

theorem powerReads_current (outcome : Outcomes) {frame : Frame}
    (fresh : currentInput frame = (false, 0)) :
    currentInput (applyBlocks outcome powerReads frame) =
      reading (outcome regAcCurrent) 2 := by
  have read : currentInput (readAcCurrent.apply outcome frame) =
      reading (outcome regAcCurrent) 2 := by
    rw [readAcCurrent, Block.poll_apply_field currentInput, reading, ← fresh]
    rfl
  have kept : ∀ block ∈ [readDcCurrent, readAcVoltage, readDcVoltage],
      block.Keeps currentInput := by
    simp only [List.forall_mem_cons]
    and_intros
    all_goals first
      | exact Block.keeps_poll (fun _ _ => rfl) (fun _ => rfl)
      | exact List.forall_mem_nil _
  exact (applyBlocks_keeps kept outcome _).trans read

theorem powerReads_voltage (outcome : Outcomes) {frame : Frame}
    (fresh : voltageInput frame = (false, 0)) :
    voltageInput (applyBlocks outcome powerReads frame) =
      reading (outcome regAcVoltage) 1 := by
  let current :=
    readDcCurrent.apply outcome (readAcCurrent.apply outcome frame)
  have before : voltageInput current = (false, 0) := by
    have first : readAcCurrent.Keeps voltageInput :=
      Block.keeps_poll (fun _ _ => rfl) (fun _ => rfl)
    have second : readDcCurrent.Keeps voltageInput :=
      Block.keeps_poll (fun _ _ => rfl) (fun _ => rfl)
    exact ((second outcome _).trans (first outcome frame)).trans fresh
  have read : voltageInput (readAcVoltage.apply outcome current) =
      reading (outcome regAcVoltage) 1 := by
    rw [readAcVoltage, Block.poll_apply_field voltageInput, reading,
      ← before]
    simp only [mul_one]
    rfl
  have kept : readDcVoltage.Keeps voltageInput :=
    Block.keeps_poll (fun _ _ => rfl) (fun _ => rfl)
  exact (kept outcome _).trans read

theorem calculatePower_power (outcome : Outcomes) {frame : Frame}
    {current voltage : Option Word}
    (currentRead : currentInput frame = reading current 2)
    (voltageRead : voltageInput frame = reading voltage 1) :
    (calculatePower.apply outcome frame).status.power =
      powerOf current voltage := by
  have gotCurrent : frame.gotCurrent = _ := congrArg Prod.fst currentRead
  have acCurrent : frame.acCurrent = _ := congrArg Prod.snd currentRead
  have gotVoltage : frame.gotVoltage = _ := congrArg Prod.fst voltageRead
  have acVoltage : frame.acVoltage = _ := congrArg Prod.snd voltageRead
  simp only [calculatePower, Block.apply, gotCurrent, acCurrent, gotVoltage,
    acVoltage]
  cases current <;> cases voltage <;>
    simp [reading, powerOf, StatusSnapshot.power]

/-- The power follows from what the reads of current and voltage give. -/
theorem pollFrame_power (outcome : Outcomes) (status : StatusSnapshot)
    (loop : ControlLoop) :
    (pollFrame outcome status loop).status.power =
      powerOf (outcome regAcCurrent) (outcome regAcVoltage) := by
  let start : Frame := { loop := loop, status := status }
  let read := applyBlocks outcome (blocksBeforePower ++ powerReads) start
  have currentRead : currentInput read =
      reading (outcome regAcCurrent) 2 := by
    have before : currentInput (applyBlocks outcome blocksBeforePower start) =
        (false, 0) :=
      applyBlocks_keeps (fun block member =>
        (blocksBeforePower_keep block member).1) outcome start
    rw [← powerReads_current outcome before, ← applyBlocks_append]
  have voltageRead : voltageInput read =
      reading (outcome regAcVoltage) 1 := by
    have before : voltageInput (applyBlocks outcome blocksBeforePower start) =
        (false, 0) :=
      applyBlocks_keeps (fun block member =>
        (blocksBeforePower_keep block member).2) outcome start
    rw [← powerReads_voltage outcome before, ← applyBlocks_append]
  have calculated := calculatePower_power outcome currentRead voltageRead
  rw [pollFrame, readStatusBlocks_eq, applyBlocks_append]
  exact (applyBlocks_keeps blocksAfterPower_keep outcome
    (calculatePower.apply outcome read)).trans calculated

/-! ## Heat -/

structure Heat where
  output : ℚ
  cop : ℚ
  valid : Bool
  deriving DecidableEq

/-- The conditions under which the flow carries heat. -/
def StatusSnapshot.Heats (status : StatusSnapshot) : Prop :=
  status.waterFlow > 1 / 100 ∧ status.powerValid = true ∧
    status.leavingWaterTemp > 0 ∧ status.enteringWaterTemp > -50 ∧
      status.leavingWaterTemp - status.enteringWaterTemp > 1 / 10

instance (status : StatusSnapshot) : Decidable status.Heats :=
  inferInstanceAs (Decidable (_ ∧ _ ∧ _ ∧ _ ∧ _))

def heatOf (status : StatusSnapshot) : Heat where
  output := if status.Heats then heatOutput status else 0
  cop :=
    if status.Heats ∧ status.acPowerW > 0 then
      heatOutput status / status.acPowerW
    else 0
  valid := status.Heats ∧ status.acPowerW > 0

def StatusSnapshot.heat (status : StatusSnapshot) : Heat where
  output := status.heatOutputW
  cop := status.cop
  valid := status.copValid

theorem calculateCop_heat (outcome : Outcomes) (frame : Frame) :
    let after := (calculateCop.apply outcome frame).status
    after.heat = heatOf after := by
  intro after
  by_cases heats : frame.status.Heats
  · by_cases powered : frame.status.acPowerW > 0
    · have calculated : after =
          { frame.status with
            heatOutputW := heatOutput frame.status
            cop := heatOutput frame.status / frame.status.acPowerW
            copValid := true } :=
        congrArg Frame.status ((if_pos heats).trans (if_pos powered))
      have still : after.Heats := by
        rw [calculated]
        exact heats
      have stillPowered : after.acPowerW > 0 := by
        rw [calculated]
        exact powered
      simp only [heatOf, still, stillPowered, and_self, if_true,
        decide_true]
      rw [calculated]
      rfl
    · have calculated : after =
          { frame.status with
            heatOutputW := heatOutput frame.status
            cop := 0
            copValid := false } :=
        congrArg Frame.status ((if_pos heats).trans (if_neg powered))
      have still : after.Heats := by
        rw [calculated]
        exact heats
      have stillUnpowered : ¬ after.acPowerW > 0 := by
        rw [calculated]
        exact powered
      simp only [heatOf, still, stillUnpowered, and_false, if_true, if_false,
        decide_false]
      rw [calculated]
      rfl
  · have calculated : after =
        { frame.status with heatOutputW := 0, cop := 0, copValid := false } :=
      congrArg Frame.status (if_neg heats)
    have still : ¬ after.Heats := by
      rw [calculated]
      exact heats
    simp only [heatOf, still, false_and, if_false, decide_false]
    rw [calculated]
    rfl

/-- Heat output and efficiency follow from the finished snapshot. -/
theorem pollFrame_heat (outcome : Outcomes) (status : StatusSnapshot)
    (loop : ControlLoop) :
    (pollFrame outcome status loop).status.heat =
      heatOf (pollFrame outcome status loop).status := by
  let start : Frame := { loop := loop, status := status }
  let blocks := blocksBeforePower ++ powerReads ++
    calculatePower :: diagnosticBlocks
  have whole : readStatusBlocks = blocks ++ [calculateCop, concludePoll] := by
    rfl
  rw [pollFrame, whole, applyBlocks_append]
  exact calculateCop_heat outcome (applyBlocks outcome blocks start)

end Windmi.Core
