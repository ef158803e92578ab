import Windmi.Core.Isolation

/-!
# Valid flags and fresh readings

Of the five reads behind a COP, four leave a value or a flag behind, when they
fail, that the guards of the calculation refuse.  The entering water is left as
0, which is above the limit of -50 that is meant to refuse it.
-/

namespace Windmi.Core

open Windmi.Modbus

/-- What the flags of a snapshot promise about the poll that set them. -/
structure FreshlyValid (device : FailingRegisters)
    (status : StatusSnapshot) : Prop where
  power : status.powerValid = true →
    ∀ address ∈ powerRegisters, device.failing address = false
  readings : status.copValid = true →
    ∀ address ∈ heatRegisters, device.failing address = false
  powered : status.copValid = true → status.acPowerW > 0
  output : status.copValid = true →
    status.heatOutputW =
      status.waterFlow * 1000 / 3600 * 4186 *
        (status.leavingWaterTemp - status.enteringWaterTemp)
  efficiency : status.copValid = true →
    status.cop = status.heatOutputW / status.acPowerW

/--
The entering water cannot be read, and everything else that a COP needs is
there: a flow above 0.01 m³/h, some power, and leaving water above 0.1 °C.
-/
structure DefaultsEnteringWater (device : FailingRegisters) : Prop where
  entering : device.failing regEnteringWaterTemp = true
  others : ∀ address ∈ heatRegisters, address ≠ regEnteringWaterTemp →
    device.failing address = false
  flow : (device.contents regWaterFlow).toInt > 1
  power : (device.contents regAcVoltage).toInt *
    (device.contents regAcCurrent).toInt > 0
  leaving : rawToTemp (device.contents regLeavingWaterTemp) > 1 / 10

namespace FailingRegisters

variable (device : FailingRegisters)

theorem outcome_isSome_iff {address : Address} :
    (device.outcome address).isSome ↔ device.failing address = false := by
  cases failing : device.failing address with
  | false => simp [outcome, failing]
  | true => simp [outcome, failing]

variable {device}

theorem outcome_answered {address : Address}
    (answered : device.failing address = false) :
    device.outcome address = some (device.contents address) := by
  simp [outcome, answered]

theorem outcome_failing {address : Address}
    (failing : device.failing address = true) :
    device.outcome address = none := by
  simp [outcome, failing]

end FailingRegisters

/-! ## The readings of a fresh snapshot -/

/-- The snapshot of a poll that starts from an empty one. -/
def freshStatus (device : FailingRegisters) (loop : ControlLoop) :
    StatusSnapshot :=
  (pollFrame device.outcome {} loop).status

section

variable (device : FailingRegisters) (loop : ControlLoop)

/-- A field that is 0 before its register is read, and after a failed read. -/
theorem freshStatus_field {field : SnapshotField}
    (member : field ∈ snapshotFields)
    (zero : field.fallback loop {} = 0) :
    field.value (freshStatus device loop) =
      (device.outcome field.address).elim 0 field.decode := by
  rw [freshStatus, pollFrame_field member, zero]

theorem freshStatus_leavingWaterTemp :
    (freshStatus device loop).leavingWaterTemp =
      (device.outcome regLeavingWaterTemp).elim 0 rawToTemp := by
  have member : leavingWaterTempField ∈ snapshotFields := by
    simp [snapshotFields, temperatureFields]
  exact freshStatus_field device loop member rfl

theorem freshStatus_enteringWaterTemp :
    (freshStatus device loop).enteringWaterTemp =
      (device.outcome regEnteringWaterTemp).elim 0 rawToTemp := by
  have member : enteringWaterTempField ∈ snapshotFields := by
    simp [snapshotFields, temperatureFields]
  exact freshStatus_field device loop member rfl

theorem freshStatus_waterFlow :
    (freshStatus device loop).waterFlow =
      (device.outcome regWaterFlow).elim 0
        fun raw => (raw.toInt : ℚ) / 100 := by
  have member : waterFlowField ∈ snapshotFields := by
    simp [snapshotFields, reportFields]
  exact freshStatus_field device loop member rfl

theorem freshStatus_power :
    (freshStatus device loop).power =
      powerOf (device.outcome regAcCurrent) (device.outcome regAcVoltage) :=
  pollFrame_power device.outcome {} loop

theorem freshStatus_powerValid :
    (freshStatus device loop).powerValid = true ↔
      ∀ address ∈ powerRegisters, device.failing address = false := by
  have valid := congrArg Power.valid (freshStatus_power device loop)
  change (freshStatus device loop).powerValid = _ at valid
  rw [valid, powerOf_valid_iff, device.outcome_isSome_iff,
    device.outcome_isSome_iff]
  simp [powerRegisters]

theorem freshStatus_heat :
    (freshStatus device loop).heat = heatOf (freshStatus device loop) :=
  pollFrame_heat device.outcome {} loop

theorem freshStatus_copValid :
    (freshStatus device loop).copValid = true ↔
      (freshStatus device loop).Heats ∧
        (freshStatus device loop).acPowerW > 0 := by
  have valid := congrArg Heat.valid (freshStatus_heat device loop)
  change (freshStatus device loop).copValid = _ at valid
  rw [valid, heatOf, decide_eq_true_iff]

variable {device loop}

theorem answered_of_flow
    (flow : (freshStatus device loop).waterFlow > 1 / 100) :
    device.failing regWaterFlow = false := by
  rw [freshStatus_waterFlow] at flow
  cases failing : device.failing regWaterFlow with
  | false => rfl
  | true =>
      rw [device.outcome_failing failing] at flow
      norm_num at flow

theorem answered_of_leaving
    (warm : (freshStatus device loop).leavingWaterTemp > 0) :
    device.failing regLeavingWaterTemp = false := by
  rw [freshStatus_leavingWaterTemp] at warm
  cases failing : device.failing regLeavingWaterTemp with
  | false => rfl
  | true =>
      rw [device.outcome_failing failing] at warm
      exact absurd warm (lt_irrefl 0)

/-- A valid COP rests on four readings of its own poll. -/
theorem answered_of_copValid
    (valid : (freshStatus device loop).copValid = true) :
    ∀ address ∈ heatRegisters, address ≠ regEnteringWaterTemp →
      device.failing address = false := by
  rcases (freshStatus_copValid device loop).mp valid with
    ⟨⟨flow, power, leaving, -, -⟩, -⟩
  have electric := (freshStatus_powerValid device loop).mp power
  intro address member other
  simp only [heatRegisters, List.mem_cons] at member
  rcases member with rfl | rfl | rfl | member
  · exact answered_of_leaving leaving
  · exact absurd rfl other
  · exact answered_of_flow flow
  · exact electric address (by simpa [powerRegisters] using member)

/-- The power is positive exactly when the two readings have one sign. -/
theorem acPowerW_pos_iff
    (current : device.failing regAcCurrent = false)
    (voltage : device.failing regAcVoltage = false) :
    (freshStatus device loop).acPowerW > 0 ↔
      (device.contents regAcVoltage).toInt *
        (device.contents regAcCurrent).toInt > 0 := by
  have power := congrArg Power.w (freshStatus_power device loop)
  rw [device.outcome_answered current,
    device.outcome_answered voltage] at power
  change (freshStatus device loop).acPowerW =
    (device.contents regAcVoltage).toInt *
      ((device.contents regAcCurrent).toInt * 2) *
        estimatedPowerFactor at power
  have scaled : (freshStatus device loop).acPowerW =
      (((device.contents regAcVoltage).toInt *
        (device.contents regAcCurrent).toInt : ℤ) : ℚ) *
          (2 * estimatedPowerFactor) := by
    rw [power]
    push_cast
    ring
  have factor : (0 : ℚ) < 2 * estimatedPowerFactor := by
    norm_num [estimatedPowerFactor]
  rw [scaled]
  exact (mul_pos_iff_of_pos_right factor).trans Int.cast_pos

/-- A COP from the default of the entering water. -/
theorem copValid_and_failing_iff :
    (freshStatus device loop).copValid = true ∧
        device.failing regEnteringWaterTemp = true ↔
      DefaultsEnteringWater device := by
  constructor
  · rintro ⟨valid, entering⟩
    have others := answered_of_copValid valid
    have member : ∀ address ∈ [regLeavingWaterTemp, regWaterFlow,
        regAcCurrent, regAcVoltage], device.failing address = false := by
      simp only [List.forall_mem_cons]
      and_intros
      · exact others _ (by decide) (by decide)
      · exact others _ (by decide) (by decide)
      · exact others _ (by decide) (by decide)
      · exact others _ (by decide) (by decide)
      · exact List.forall_mem_nil _
    have leavingAnswered := member regLeavingWaterTemp (by simp)
    have flowAnswered := member regWaterFlow (by simp)
    rcases (freshStatus_copValid device loop).mp valid with
      ⟨⟨flow, -, -, -, difference⟩, powered⟩
    rw [freshStatus_leavingWaterTemp, freshStatus_enteringWaterTemp,
      device.outcome_answered leavingAnswered,
      device.outcome_failing entering] at difference
    rw [freshStatus_waterFlow, device.outcome_answered flowAnswered] at flow
    refine { entering := entering, others := others, flow := ?_, power := ?_
             leaving := ?_ }
    · change ((device.contents regWaterFlow).toInt : ℚ) / 100 > 1 / 100
        at flow
      rw [gt_iff_lt, div_lt_div_iff_of_pos_right (by norm_num)] at flow
      exact_mod_cast flow
    · exact (acPowerW_pos_iff (member _ (by simp)) (member _ (by simp))).mp
        powered
    · simpa using difference
  · intro defaults
    have leavingAnswered := defaults.others regLeavingWaterTemp
      (by decide) (by decide)
    have flowAnswered := defaults.others regWaterFlow (by decide) (by decide)
    have current := defaults.others regAcCurrent (by decide) (by decide)
    have voltage := defaults.others regAcVoltage (by decide) (by decide)
    refine ⟨(freshStatus_copValid device loop).mpr ⟨?_, ?_⟩,
      defaults.entering⟩
    · have leaving := defaults.leaving
      have flow : (1 : ℚ) < (device.contents regWaterFlow).toInt := by
        exact_mod_cast defaults.flow
      unfold StatusSnapshot.Heats
      rw [freshStatus_leavingWaterTemp, freshStatus_enteringWaterTemp,
        freshStatus_waterFlow, device.outcome_answered leavingAnswered,
        device.outcome_answered flowAnswered,
        device.outcome_failing defaults.entering]
      simp only [Option.elim_some, Option.elim_none]
      and_intros
      · exact div_lt_div_of_pos_right flow (by norm_num)
      · refine (freshStatus_powerValid device loop).mpr ?_
        simp [powerRegisters, current, voltage]
      · linarith
      · norm_num
      · linarith
    · exact (acPowerW_pos_iff current voltage).mpr defaults.power

end

/--
The flags of a fresh snapshot speak of readings of the same poll, unless the
entering water cannot be read while the other readings allow a COP.
-/
theorem flags_fresh_iff (device : FailingRegisters) (loop : ControlLoop)
    (history : List Event) :
    FreshlyValid device
        (readStatus failingRegisters {}
          { loop := loop
            bus := { device := device, history := history } }).status ↔
      ¬ DefaultsEnteringWater device := by
  have spec : (readStatus failingRegisters {}
      { loop := loop
        bus := { device := device, history := history } }).status =
      freshStatus device loop :=
    congrArg Poll.status (readStatus_failingRegisters {} _)
  rw [spec, ← @copValid_and_failing_iff device loop]
  constructor
  · rintro fresh ⟨valid, entering⟩
    have answered := fresh.readings valid regEnteringWaterTemp (by decide)
    rw [entering] at answered
    exact Bool.noConfusion answered
  · intro refused
    have heat := freshStatus_heat device loop
    have output := congrArg Heat.output heat
    have cop := congrArg Heat.cop heat
    change (freshStatus device loop).heatOutputW = _ at output
    change (freshStatus device loop).cop = _ at cop
    have heats := (freshStatus_copValid device loop).mp
    constructor
    · exact (freshStatus_powerValid device loop).mp
    · intro valid address member
      by_cases other : address = regEnteringWaterTemp
      · rw [other, ← Bool.not_eq_true]
        exact fun entering => refused ⟨valid, entering⟩
      · exact answered_of_copValid valid address member other
    · exact fun valid => (heats valid).2
    · intro valid
      rw [output, heatOf, if_pos (heats valid).1]
      rfl
    · intro valid
      rw [cop, output, heatOf, if_pos (heats valid), if_pos (heats valid).1]

/-- 21.5 degrees everywhere, but the entering water cannot be read. -/
theorem withoutEnteringWater_flags :
    ¬ FreshlyValid withoutEnteringWater
      (readStatus failingRegisters {}
        { loop := {}
          bus := { device := withoutEnteringWater
                   history := [] } }).status := by
  intro fresh
  have valid : (readStatus failingRegisters {}
      { loop := {}
        bus := { device := withoutEnteringWater
                 history := [] } }).status.copValid = true := by
    decide +kernel
  have answered := fresh.readings valid regEnteringWaterTemp (by decide)
  exact Bool.noConfusion answered

end Windmi.Core
