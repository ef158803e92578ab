import Mathlib.Data.List.Dedup
import Windmi.Core.PollSpec

/-!
# The fields of a snapshot

Every polled register has a field of its own in the snapshot.  A read that
succeeds decodes the register into it; one that fails leaves a default in it,
or what was there.  No other block of `readStatus` touches the field, so that
each field follows from the outcome of its own read (`pollFrame_field`).
-/

namespace Windmi.Core

open Windmi.Modbus

/-- A field with its register, all of its values taken as rationals. -/
structure SnapshotField where
  /-- The block that fills it. -/
  source : Block
  address : Address
  value : StatusSnapshot → ℚ
  decode : Word → ℚ
  /-- What a failed read leaves, given the loop and the snapshot before. -/
  fallback : ControlLoop → StatusSnapshot → ℚ

/-- A field that is left as it is when its register cannot be read. -/
def SnapshotField.kept (source : Block) (address : Address)
    (value : StatusSnapshot → ℚ) (decode : Word → ℚ) : SnapshotField where
  source := source
  address := address
  value := value
  decode := decode
  fallback _ status := value status

/-- A field that gets a default when its register cannot be read. -/
def SnapshotField.defaulted (source : Block) (address : Address)
    (value : StatusSnapshot → ℚ) (decode : Word → ℚ) (default : ℚ) :
    SnapshotField where
  source := source
  address := address
  value := value
  decode := decode
  fallback _ _ := default

def signedValue (raw : Word) : ℚ :=
  raw.toInt

def truthValue (flag : Bool) : ℚ :=
  if flag then 1 else 0

/-! ## The table -/

def outdoorTempField : SnapshotField :=
  .kept readOutdoorTemp regOutdoorTemp StatusSnapshot.outdoorTemp rawToTemp

def indoorTempField : SnapshotField :=
  .kept readIndoorTemp regIndoorTemp StatusSnapshot.indoorTemp rawToTemp

def leavingWaterTempField : SnapshotField :=
  .kept readLeavingWaterTemp regLeavingWaterTemp
    StatusSnapshot.leavingWaterTemp rawToTemp

def enteringWaterTempField : SnapshotField :=
  .kept readEnteringWaterTemp regEnteringWaterTemp
    StatusSnapshot.enteringWaterTemp rawToTemp

def dhwTankTempField : SnapshotField :=
  .kept readDhwTankTemp regDhwTankTemp StatusSnapshot.dhwTankTemp rawToTemp

def runningModeField : SnapshotField :=
  .kept readRunningMode regRunningMode (fun status => status.runningMode)
    signedValue

def runningStatusField : SnapshotField :=
  .kept readRunningStatus regRunningStatus
    (fun status => status.runningStatus) signedValue

def isRunningField : SnapshotField :=
  .kept readRunningStatus regRunningStatus
    (fun status => truthValue status.isRunning)
    fun raw => truthValue (raw.toInt ≠ modeStatusOff)

def dhwTargetField : SnapshotField :=
  .kept readDhwTarget regDhwTarget StatusSnapshot.dhwTarget rawToTemp

/-- The heating target falls back to the one last read. -/
def heatingTargetField : SnapshotField where
  source := readHeatingTarget
  address := regHeatingTarget
  value := StatusSnapshot.heatingTarget
  decode := rawToTemp
  fallback loop _ := loop.lastHeatingTarget

def dhwPriorityField : SnapshotField :=
  .kept readDhwPriority regDhwPriority
    (fun status => truthValue status.dhwPriority)
    fun raw => truthValue (raw.toInt ≠ 0)

def occupancyModeField : SnapshotField :=
  .kept readOccupancyMode regOccupancyMode
    (fun status => status.occupancyMode) signedValue

def acCurrentField : SnapshotField :=
  .defaulted readAcCurrent regAcCurrent StatusSnapshot.acCurrent
    (fun raw => (raw.toInt : ℚ) * 2) 0

def dcCurrentField : SnapshotField :=
  .defaulted readDcCurrent regDcCurrent StatusSnapshot.dcCurrent
    (fun raw => (raw.toInt : ℚ) * 4) 0

def acVoltageField : SnapshotField :=
  .defaulted readAcVoltage regAcVoltage StatusSnapshot.acVoltage signedValue 0

def dcVoltageField : SnapshotField :=
  .defaulted readDcVoltage regDcVoltage StatusSnapshot.dcVoltage
    (fun raw => (raw.toInt : ℚ) / 2) 0

def unitCapacityField : SnapshotField :=
  .defaulted readUnitCapacity regUnitCapacity
    (fun status => status.unitCapacityKw) signedValue 0

def compressorFreqField : SnapshotField :=
  .defaulted readCompressorFreq regCompressorFreq
    StatusSnapshot.compressorFreq signedValue 0

def waterFlowField : SnapshotField :=
  .defaulted readWaterFlow regWaterFlow StatusSnapshot.waterFlow
    (fun raw => (raw.toInt : ℚ) / 100) 0

def actualCapacityOutputField : SnapshotField :=
  .defaulted readActualCapacityOutput regActualCapacityOutput
    (fun status => status.actualCapacityOutput) signedValue 0

def dhwValveStatusField : SnapshotField :=
  .defaulted readDhwValveStatus regDhwValveStatus
    (fun status => status.dhwValveStatus) signedValue (-1)

def dhwModeStatusField : SnapshotField :=
  .defaulted readDhwModeStatus regDhwModeStatus
    (fun status => status.dhwModeStatus) signedValue (-1)

def oduInputStatusField : SnapshotField :=
  .defaulted readOduInputStatus regOduInputStatus
    (fun status => status.oduInputStatus) signedValue 0

def compressorRuntimeField : SnapshotField :=
  .defaulted readCompressorRuntime regCompressorRuntime
    (fun status => status.compressorRuntimeH) signedValue 0

def pumpRuntimeField : SnapshotField :=
  .defaulted readPumpRuntime regPumpRuntime
    (fun status => status.pumpRuntimeH) signedValue 0

def temperatureFields : List SnapshotField :=
  [outdoorTempField, indoorTempField, leavingWaterTempField,
    enteringWaterTempField, dhwTankTempField, runningModeField,
    runningStatusField, isRunningField, dhwTargetField]

def reportFields : List SnapshotField :=
  [dhwPriorityField, occupancyModeField, acCurrentField, dcCurrentField,
    acVoltageField, dcVoltageField, unitCapacityField, compressorFreqField,
    waterFlowField, actualCapacityOutputField, dhwValveStatusField,
    dhwModeStatusField, oduInputStatusField, compressorRuntimeField,
    pumpRuntimeField]

/-- The fields that carry a register, in the order of the reads. -/
def snapshotFields : List SnapshotField :=
  temperatureFields ++ heatingTargetField :: reportFields

theorem dedup_snapshotFields :
    (snapshotFields.map SnapshotField.address).dedup = polledRegisters := by
  rw [polledRegisters_eq]
  decide +kernel

/-- Every register of a poll has a field, and every field has one of them. -/
theorem mem_polledRegisters_iff {address : Address} :
    address ∈ polledRegisters ↔
      ∃ field ∈ snapshotFields, field.address = address := by
  rw [← dedup_snapshotFields, List.mem_dedup, List.mem_map]

/-! ## Blocks and fields -/

/-- The part of the local state that ends up in a field. -/
def SnapshotField.view (field : SnapshotField) (frame : Frame) : ℚ :=
  field.value frame.status

/--
A block which decodes the register of a field into it, and otherwise puts
there what the field falls back to.
-/
def Block.Reports (field : SnapshotField) (block : Block) : Prop :=
  ∀ outcome frame,
    field.view (block.apply outcome frame) =
      (outcome field.address).elim (field.fallback frame.loop frame.status)
        field.decode

theorem Block.poll_reports {field : SnapshotField}
    {success : Word → Frame → Frame} {failure : Frame → Frame}
    (onSuccess : ∀ raw frame, field.view (success raw frame) =
      field.decode raw)
    (onFailure : ∀ frame, field.view (failure frame) =
      field.fallback frame.loop frame.status) :
    (Block.poll field.address success failure).Reports field := by
  intro outcome frame
  rw [Block.poll_apply_field field.view]
  simp [onSuccess, onFailure]

/-- A field whose fallback is a default, or whatever is in it already. -/
def SnapshotField.Stable (field : SnapshotField) : Prop :=
  ∃ default : ℚ → ℚ,
    (∀ value, default (default value) = default value) ∧
      ∀ loop status, field.fallback loop status = default (field.value status)

theorem SnapshotField.kept_stable (source : Block) (address : Address)
    (value : StatusSnapshot → ℚ) (decode : Word → ℚ) :
    (SnapshotField.kept source address value decode).Stable :=
  ⟨id, fun _ => rfl, fun _ _ => rfl⟩

theorem SnapshotField.defaulted_stable (source : Block) (address : Address)
    (value : StatusSnapshot → ℚ) (decode : Word → ℚ) (default : ℚ) :
    (SnapshotField.defaulted source address value decode default).Stable :=
  ⟨fun _ => default, fun _ => rfl, fun _ _ => rfl⟩

/-- Blocks which keep or report a stable field, one of them reporting it. -/
theorem applyBlocks_reports {field : SnapshotField} (stable : field.Stable)
    {blocks : List Block}
    (each : ∀ block ∈ blocks, block.Keeps field.view ∨ block.Reports field)
    (reported : ∃ block ∈ blocks, block.Reports field)
    (outcome : Outcomes) (frame : Frame) :
    field.view (applyBlocks outcome blocks frame) =
      (outcome field.address).elim (field.fallback frame.loop frame.status)
        field.decode := by
  rcases stable with ⟨default, again, fallback⟩
  induction blocks generalizing frame with
  | nil => simp at reported
  | cons block blocks ih =>
      have later := fun inner member =>
        each inner (List.mem_cons_of_mem block member)
      change field.view (applyBlocks outcome blocks
        (block.apply outcome frame)) = _
      by_cases rest : ∃ inner ∈ blocks, inner.Reports field
      · rw [ih later rest, fallback, fallback]
        rcases each block (List.mem_cons_self ..) with keeps | reports
        · exact congrArg
            (fun value => (outcome field.address).elim (default value)
              field.decode) (keeps outcome frame)
        · have first := reports outcome frame
          rw [fallback] at first
          change (outcome field.address).elim
            (default (field.view (block.apply outcome frame))) _ = _
          rw [first]
          cases outcome field.address with
          | none => exact again _
          | some raw => rfl
      · have keptLater : ∀ inner ∈ blocks, inner.Keeps field.view := by
          intro inner member
          rcases later inner member with keeps | reports
          · exact keeps
          · exact absurd ⟨inner, member, reports⟩ rest
        rw [applyBlocks_keeps keptLater]
        rcases reported with ⟨inner, member, reports⟩
        rcases List.mem_cons.mp member with rfl | afterwards
        · exact reports outcome frame
        · exact absurd ⟨inner, afterwards, reports⟩ rest

/-! ## Every field -/

/-- Each block leaves a field alone or fills it. -/
theorem fields_each :
    ∀ field ∈ temperatureFields ++ reportFields,
      ∀ block ∈ readStatusBlocks,
        block.Keeps field.view ∨ block.Reports field := by
  simp only [temperatureFields, reportFields, List.cons_append,
    List.nil_append, List.forall_mem_cons]
  and_intros
  all_goals first
    | exact List.forall_mem_nil _
    | simp only [readStatusBlocks, temperatureBlocks, reportBlocks,
        List.cons_append, List.nil_append, List.forall_mem_cons]
      and_intros
  all_goals first
    | exact List.forall_mem_nil _
    | exact Or.inl (Block.keeps_poll (fun _ _ => rfl) (fun _ => rfl))
    | exact Or.inr (Block.poll_reports (fun _ _ => rfl) (fun _ => rfl))
    | exact Or.inl (calculatePower_keeps fun _ _ _ _ => rfl)
    | exact Or.inl (calculateCop_keeps fun _ _ _ _ => rfl)
    | exact Or.inl (fun _ _ => rfl)

theorem fields_report :
    ∀ field ∈ temperatureFields ++ reportFields,
      field.Stable ∧ field.source.Reports field := by
  simp only [temperatureFields, reportFields, List.cons_append,
    List.nil_append, List.forall_mem_cons]
  and_intros
  all_goals first
    | exact List.forall_mem_nil _
    | exact SnapshotField.kept_stable _ _ _ _
    | exact SnapshotField.defaulted_stable _ _ _ _ _
    | exact Block.poll_reports (fun _ _ => rfl) (fun _ => rfl)

theorem sources_blocks :
    ∀ block ∈ (temperatureFields ++ reportFields).map SnapshotField.source,
      block ∈ readStatusBlocks := by
  have sources :
      (temperatureFields ++ reportFields).map SnapshotField.source =
        [readOutdoorTemp, readIndoorTemp, readLeavingWaterTemp,
          readEnteringWaterTemp, readDhwTankTemp, readRunningMode,
          readRunningStatus, readRunningStatus, readDhwTarget,
          readDhwPriority, readOccupancyMode, readAcCurrent, readDcCurrent,
          readAcVoltage, readDcVoltage, readUnitCapacity, readCompressorFreq,
          readWaterFlow, readActualCapacityOutput, readDhwValveStatus,
          readDhwModeStatus, readOduInputStatus, readCompressorRuntime,
          readPumpRuntime] := rfl
  simp [sources, readStatusBlocks, temperatureBlocks, reportBlocks]

/-- Each field of the snapshot follows from the read of its register. -/
theorem pollFrame_field {field : SnapshotField}
    (member : field ∈ snapshotFields) (outcome : Outcomes)
    (status : StatusSnapshot) (loop : ControlLoop) :
    field.value (pollFrame outcome status loop).status =
      (outcome field.address).elim (field.fallback loop status)
        field.decode := by
  have which : field = heatingTargetField ∨
      field ∈ temperatureFields ++ reportFields := by
    simp only [snapshotFields, List.mem_append, List.mem_cons] at member ⊢
    tauto
  rcases which with rfl | inside
  · exact pollFrame_heatingTarget outcome status loop
  · rcases fields_report field inside with ⟨stable, reports⟩
    have source := sources_blocks field.source (List.mem_map_of_mem inside)
    exact applyBlocks_reports stable (fields_each field inside)
      ⟨field.source, source, reports⟩ outcome
      { loop := loop, status := status }

end Windmi.Core
