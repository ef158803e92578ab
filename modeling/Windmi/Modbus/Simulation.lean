import Windmi.Library.Runs
import Windmi.Modbus.Wrappers

/-!
# The dynamics of the simulated heat pump

The temperatures of the demo mode drift toward the ambient one while the unit is
off; otherwise the leaving water covers a fifth of its distance to the heating
target per second, which is more than the whole distance once five seconds have
passed.
-/

namespace Windmi.Modbus

open Windmi.Core Windmi.Library

/-- The registers of the simulation; one that is missing counts as zero. -/
abbrev SimulatedRegisters := Address → Option Word

/-! ## The range of a register -/

structure InRange (value : Int) : Prop where
  lower : -32768 ≤ value
  upper : value ≤ 32767

theorem inRange_toInt (word : Word) : InRange word.toInt := by
  have lower := BitVec.le_toInt word
  have upper := @BitVec.toInt_lt _ word
  constructor <;> omega

theorem toInt16_of_inRange {value : Int} (fits : InRange value) :
    toInt16 value = value := by
  rcases fits with ⟨lower, upper⟩
  rw [toInt16, BitVec.toInt_ofInt]
  exact Int.bmod_eq_of_le (by omega) (by omega)

theorem InRange.of_mem_uIcc {value first second : Int}
    (between : value ∈ Set.uIcc first second) (firstFits : InRange first)
    (secondFits : InRange second) : InRange value := by
  rcases firstFits with ⟨firstLower, firstUpper⟩
  rcases secondFits with ⟨secondLower, secondUpper⟩
  rcases Set.mem_uIcc.mp between with inside | inside
  · constructor <;> omega
  · constructor <;> omega

theorem inRange_ambientTemp : InRange ambientTemp := by
  constructor <;> decide

theorem inRange_registerValue (registers : SimulatedRegisters)
    (address : Address) : InRange (registerValue registers address) :=
  inRange_toInt _

/-! ## Reading what was stored -/

section

variable (registers : SimulatedRegisters) {address other : Address}
  (value : Int)

theorem registerValue_storeValue :
    registerValue (storeValue address value registers) address =
      toInt16 value := by
  rw [registerValue, storeValue, Function.update_self]
  rfl

theorem registerValue_storeValue_of_ne (different : address ≠ other) :
    registerValue (storeValue other value registers) address =
      registerValue registers address := by
  rw [registerValue, storeValue, Function.update_of_ne different]
  rfl

end

/-! ## Drifting -/

/-- How far a temperature drifts, about 20 units per second. -/
def drift (elapsed : ℚ) : Int :=
  toInt16 (truncate (elapsed * 20))

/-- The outdoor temperature drifts slightly slower. -/
def outdoorDrift (elapsed : ℚ) : Int :=
  toInt16 ((drift elapsed).tdiv 2)

theorem driftToAmbient_mem_uIcc {drift : Int} (forward : 0 ≤ drift)
    (value : Int) :
    driftToAmbient drift value ∈ Set.uIcc value ambientTemp := by
  rw [Set.mem_uIcc]
  unfold driftToAmbient
  split
  · split
    · omega
    · omega
  · split
    · omega
    · omega

section

variable {elapsed : ℚ} (long : ¬ elapsed < 1 / 10)

include long

theorem drift_nonneg : 0 ≤ truncate (elapsed * 20) := by
  have forward : 0 ≤ elapsed * 20 := by linarith
  rw [truncate_of_nonneg forward]
  exact Int.floor_nonneg.mpr forward

/-- A drift fits a register for about 27 minutes. -/
theorem drift_inRange_iff :
    InRange (truncate (elapsed * 20)) ↔ elapsed * 20 < 32768 := by
  have forward : 0 ≤ elapsed * 20 := by linarith
  have bound := @truncate_le_iff _ forward 32767
  norm_num at bound
  constructor
  · exact fun fits => bound.mp fits.upper
  · intro short
    have nonneg := drift_nonneg long
    exact { lower := by omega, upper := bound.mpr short }

theorem drift_forward (short : elapsed * 20 < 32768) :
    0 ≤ drift elapsed ∧ 0 ≤ outdoorDrift elapsed ∧
      InRange ((drift elapsed).tdiv 2) := by
  have fits := (drift_inRange_iff long).mpr short
  have nonneg := drift_nonneg long
  have value : drift elapsed = truncate (elapsed * 20) :=
    toInt16_of_inRange fits
  have half : InRange ((drift elapsed).tdiv 2) := by
    rcases fits with ⟨lower, upper⟩
    rw [value, Int.tdiv_eq_ediv_of_nonneg nonneg]
    constructor <;> omega
  refine ⟨value ▸ nonneg, ?_, half⟩
  rw [outdoorDrift, toInt16_of_inRange half, value,
    Int.tdiv_eq_ediv_of_nonneg nonneg]
  omega

end

/-! ## The registers after a step -/

/-- The temperatures that drift while the unit is off. -/
def driftingRegisters : List Address :=
  [regLeavingWaterTemp, regDhwTankTemp, regIndoorTemp, regOutdoorTemp]

namespace SimulatedRegisters

/-- A step as one of a run. -/
def update (registers : SimulatedRegisters) (elapsed : ℚ) :
    SimulatedRegisters :=
  updateSimulationLocked elapsed registers

variable (registers : SimulatedRegisters) (elapsed : ℚ)

def runningMode : Int :=
  registerValue registers regRunningMode

/-- Heating, or cooling, with domestic hot water. -/
def Running : Prop :=
  runningMode registers = modeSetHeatDhw ∨
    runningMode registers = modeSetCoolDhw

instance : Decidable (Running registers) :=
  inferInstanceAs (Decidable (_ ∨ _))

/-- The distance of the leaving water from its target. -/
def difference : Int :=
  registerValue registers regHeatingTarget -
    registerValue registers regLeavingWaterTemp

/-- 20% of the distance per second. -/
def stride : Int :=
  truncate (elapsed * toInt16 (difference registers) * (1 / 5))

def nextLeaving : Int :=
  registerValue registers regLeavingWaterTemp +
    toInt16 (stride registers elapsed)

/-- The values which a step converts to `int16_t`. -/
def narrowed : List Int :=
  let drifted drift address :=
    driftToAmbient drift (registerValue registers address)
  if elapsed < 1 / 10 then []
  else if runningMode registers = modeSetOff then
    [truncate (elapsed * 20), (drift elapsed).tdiv 2,
      drifted (drift elapsed) regLeavingWaterTemp,
      drifted (drift elapsed) regDhwTankTemp,
      drifted (drift elapsed) regIndoorTemp,
      drifted (outdoorDrift elapsed) regOutdoorTemp]
  else if Running registers then
    [difference registers, stride registers elapsed,
      nextLeaving registers elapsed]
  else []

/-- What the branch for the running mode makes of the registers. -/
def simulated : SimulatedRegisters :=
  if runningMode registers = modeSetOff then simulateOff elapsed registers
  else if Running registers then
    simulateRunning elapsed (runningMode registers) registers
  else registers

section

variable {registers : SimulatedRegisters} {elapsed : ℚ}

theorem Running.on (running : Running registers) :
    runningMode registers ≠ modeSetOff := by
  rcases running with heats | cools
  · rw [heats]
    decide
  · rw [cools]
    decide

theorem update_of_short (short : elapsed < 1 / 10) :
    update registers elapsed = registers :=
  if_pos short

/-- Apart from the two currents a step is what its branch makes of it. -/
theorem update_value {address : Address} (long : ¬ elapsed < 1 / 10)
    (notAc : address ≠ regAcCurrent) (notDc : address ≠ regDcCurrent) :
    registerValue (update registers elapsed) address =
      registerValue (simulated registers elapsed) address := by
  have equal : update registers elapsed =
      if registerValue (simulated registers elapsed) regRunningStatus =
          modeStatusOff then
        storeValue regDcCurrent 0
          (storeValue regAcCurrent 0 (simulated registers elapsed))
      else simulated registers elapsed :=
    if_neg long
  rw [equal]
  split
  · rw [registerValue_storeValue_of_ne _ _ notDc,
      registerValue_storeValue_of_ne _ _ notAc]
  · rfl

/-- The drift that applies to a temperature. -/
def driftOf (elapsed : ℚ) (address : Address) : Int :=
  if address = regOutdoorTemp then outdoorDrift elapsed else drift elapsed

theorem simulateOff_value {address : Address}
    (member : address ∈ driftingRegisters) :
    registerValue (simulateOff elapsed registers) address =
      toInt16 (driftToAmbient (driftOf elapsed address)
        (registerValue registers address)) := by
  have status : regRunningStatus ∉ driftingRegisters := by
    decide
  have distinct : driftingRegisters.Nodup := by
    decide
  have awake : address ≠ regRunningStatus :=
    ne_of_mem_of_not_mem member status
  simp only [driftingRegisters, List.nodup_cons, List.mem_cons,
    List.not_mem_nil, or_false, not_or] at distinct
  rcases distinct with ⟨⟨leavingDhw, leavingIndoor, leavingOutdoor⟩,
    ⟨dhwIndoor, dhwOutdoor⟩, indoorOutdoor, -⟩
  simp only [driftingRegisters, List.mem_cons, List.not_mem_nil,
    or_false] at member
  rw [simulateOff, registerValue_storeValue_of_ne _ _ awake]
  rcases member with rfl | rfl | rfl | rfl
  · rw [registerValue_storeValue_of_ne _ _ leavingOutdoor,
      registerValue_storeValue_of_ne _ _ leavingIndoor,
      registerValue_storeValue_of_ne _ _ leavingDhw,
      registerValue_storeValue, driftOf, if_neg leavingOutdoor, drift]
  · rw [registerValue_storeValue_of_ne _ _ dhwOutdoor,
      registerValue_storeValue_of_ne _ _ dhwIndoor,
      registerValue_storeValue, driftOf, if_neg dhwOutdoor, drift]
  · rw [registerValue_storeValue_of_ne _ _ indoorOutdoor,
      registerValue_storeValue, driftOf, if_neg indoorOutdoor, drift]
  · rw [registerValue_storeValue, driftOf, if_pos rfl, outdoorDrift, drift]

theorem update_value_of_off (long : ¬ elapsed < 1 / 10)
    (off : runningMode registers = modeSetOff) {address : Address}
    (member : address ∈ driftingRegisters) :
    registerValue (update registers elapsed) address =
      toInt16 (driftToAmbient (driftOf elapsed address)
        (registerValue registers address)) := by
  have notAc : regAcCurrent ∉ driftingRegisters := by
    decide
  have notDc : regDcCurrent ∉ driftingRegisters := by
    decide
  rw [update_value long (ne_of_mem_of_not_mem member notAc)
    (ne_of_mem_of_not_mem member notDc), simulated, if_pos off,
    simulateOff_value member]

theorem update_value_of_running (long : ¬ elapsed < 1 / 10)
    (running : Running registers) :
    registerValue (update registers elapsed) regLeavingWaterTemp =
      toInt16 (nextLeaving registers elapsed) := by
  rw [update_value long (by decide) (by decide), simulated,
    if_neg running.on, if_pos running, simulateRunning,
    registerValue_storeValue_of_ne _ _ (by decide), registerValue_storeValue]
  rfl

/-- Everything that a step may write. -/
def simulatedAddresses : List Address :=
  driftingRegisters ++ [regRunningStatus, regAcCurrent, regDcCurrent]

theorem update_value_of_foreign {address : Address}
    (foreign : address ∉ simulatedAddresses) :
    registerValue (update registers elapsed) address =
      registerValue registers address := by
  simp only [simulatedAddresses, driftingRegisters, List.mem_append,
    List.mem_cons, List.not_mem_nil, or_false, not_or] at foreign
  rcases foreign with ⟨⟨leaving, dhw, indoor, outdoor⟩, status, ac, dc⟩
  by_cases short : elapsed < 1 / 10
  · rw [update_of_short short]
  rw [update_value short ac dc]
  unfold simulated
  split
  · rw [simulateOff, registerValue_storeValue_of_ne _ _ status,
      registerValue_storeValue_of_ne _ _ outdoor,
      registerValue_storeValue_of_ne _ _ indoor,
      registerValue_storeValue_of_ne _ _ dhw,
      registerValue_storeValue_of_ne _ _ leaving]
  · split
    · rw [simulateRunning, registerValue_storeValue_of_ne _ _ status,
        registerValue_storeValue_of_ne _ _ leaving]
    · rfl

end

/-! ## When a step approaches the attractors -/

/-- A step stays in range and between the old values and the attractors. -/
structure Approaches (registers : SimulatedRegisters) (elapsed : ℚ) :
    Prop where
  narrowed : ∀ value ∈ narrowed registers elapsed, InRange value
  off : runningMode registers = modeSetOff →
    ∀ address ∈ driftingRegisters,
      registerValue (update registers elapsed) address ∈
        Set.uIcc (registerValue registers address) ambientTemp
  running : Running registers →
    registerValue (update registers elapsed) regLeavingWaterTemp ∈
      Set.uIcc (registerValue registers regLeavingWaterTemp)
        (registerValue registers regHeatingTarget)

/--
A drift that fits a register, and a stride that exceeds the whole distance by
less than a unit.
-/
structure Gentle (registers : SimulatedRegisters) (elapsed : ℚ) : Prop where
  off : runningMode registers = modeSetOff → elapsed * 20 < 32768
  fits : Running registers → 1 / 10 ≤ elapsed →
    InRange (difference registers)
  slow : Running registers →
    elapsed / 5 * |(difference registers : ℚ)| <
      |(difference registers : ℚ)| + 1

section

variable {registers : SimulatedRegisters} {elapsed : ℚ}

theorem Gentle.of_short (short : elapsed < 1 / 10) :
    Gentle registers elapsed where
  off _ := by linarith
  fits _ long := absurd short (not_lt.mpr long)
  slow _ := by
    have distance := abs_nonneg (difference registers : ℚ)
    nlinarith

theorem Approaches.of_short (short : elapsed < 1 / 10) :
    Approaches registers elapsed where
  narrowed := by
    rw [SimulatedRegisters.narrowed, if_pos short]
    exact List.forall_mem_nil _
  off _ _ _ := by
    rw [update_of_short short]
    exact Set.left_mem_uIcc
  running _ := by
    rw [update_of_short short]
    exact Set.left_mem_uIcc

variable (long : ¬ elapsed < 1 / 10)

include long

theorem narrowed_of_off (off : runningMode registers = modeSetOff) :
    (∀ value ∈ narrowed registers elapsed, InRange value) ↔
      elapsed * 20 < 32768 := by
  rw [narrowed, if_neg long, if_pos off, ← drift_inRange_iff long]
  refine ⟨fun all => all _ List.mem_cons_self, fun fits => ?_⟩
  rcases drift_forward long ((drift_inRange_iff long).mp fits) with
    ⟨forward, outdoorForward, half⟩
  have inside {drift : Int} (forward : 0 ≤ drift) (address : Address) :
      InRange (driftToAmbient drift (registerValue registers address)) :=
    .of_mem_uIcc (driftToAmbient_mem_uIcc forward _)
      (inRange_registerValue registers address) inRange_ambientTemp
  simp only [List.forall_mem_cons]
  exact ⟨fits, half, inside forward _, inside forward _, inside forward _,
    inside outdoorForward _, List.forall_mem_nil _⟩

theorem update_mem_uIcc_of_off (off : runningMode registers = modeSetOff)
    (short : elapsed * 20 < 32768) {address : Address}
    (member : address ∈ driftingRegisters) :
    registerValue (update registers elapsed) address ∈
      Set.uIcc (registerValue registers address) ambientTemp := by
  rcases drift_forward long short with ⟨forward, outdoorForward, -⟩
  have ahead : 0 ≤ driftOf elapsed address := by
    unfold driftOf
    split
    · exact outdoorForward
    · exact forward
  have between := driftToAmbient_mem_uIcc ahead
    (registerValue registers address)
  have fits := InRange.of_mem_uIcc between
    (inRange_registerValue registers address) inRange_ambientTemp
  rw [update_value_of_off long off member, toInt16_of_inRange fits]
  exact between

/-- The stride of a difference that fits a register. -/
theorem stride_mem_uIcc_iff (fits : InRange (difference registers)) :
    stride registers elapsed ∈ Set.uIcc 0 (difference registers) ↔
      elapsed / 5 * |(difference registers : ℚ)| <
        |(difference registers : ℚ)| + 1 := by
  have forward : 0 ≤ elapsed / 5 := by linarith
  have scaled : elapsed * difference registers * (1 / 5) =
      elapsed / 5 * difference registers := by
    ring
  rw [stride, toInt16_of_inRange fits, scaled]
  exact truncate_mul_mem_uIcc_iff forward _

theorem running_iff (running : Running registers) :
    Approaches registers elapsed ↔
      InRange (difference registers) ∧
        elapsed / 5 * |(difference registers : ℚ)| <
          |(difference registers : ℚ)| + 1 := by
  have values : narrowed registers elapsed =
      [difference registers, stride registers elapsed,
        nextLeaving registers elapsed] := by
    rw [narrowed, if_neg long, if_neg running.on, if_pos running]
  have leavingFits := inRange_registerValue registers regLeavingWaterTemp
  have targetFits := inRange_registerValue registers regHeatingTarget
  constructor
  · intro approaches
    have ranges := approaches.narrowed
    have between := approaches.running running
    simp only [values, List.forall_mem_cons] at ranges
    rcases ranges with ⟨fits, strides, next, -⟩
    refine ⟨fits, (stride_mem_uIcc_iff long fits).mp ?_⟩
    rw [update_value_of_running long running, toInt16_of_inRange next,
      nextLeaving, toInt16_of_inRange strides] at between
    rw [Set.mem_uIcc] at between ⊢
    unfold difference
    omega
  · rintro ⟨fits, slow⟩
    have strides := (stride_mem_uIcc_iff long fits).mpr slow
    have strideFits : InRange (stride registers elapsed) :=
      .of_mem_uIcc strides (by constructor <;> decide) fits
    have between : nextLeaving registers elapsed ∈
        Set.uIcc (registerValue registers regLeavingWaterTemp)
          (registerValue registers regHeatingTarget) := by
      rw [nextLeaving, toInt16_of_inRange strideFits]
      rw [Set.mem_uIcc] at strides ⊢
      unfold difference at strides
      omega
    have nextFits : InRange (nextLeaving registers elapsed) :=
      .of_mem_uIcc between leavingFits targetFits
    constructor
    · simp only [values, List.forall_mem_cons]
      exact ⟨fits, strideFits, nextFits, List.forall_mem_nil _⟩
    · exact fun off => absurd off running.on
    · intro _
      rw [update_value_of_running long running, toInt16_of_inRange nextFits]
      exact between

end

/-- One step approaches the attractors exactly when it is gentle. -/
theorem approaches_iff (registers : SimulatedRegisters) (elapsed : ℚ) :
    Approaches registers elapsed ↔ Gentle registers elapsed := by
  by_cases long : elapsed < 1 / 10
  · exact iff_of_true (.of_short long) (.of_short long)
  by_cases running : Running registers
  · rw [running_iff long running]
    constructor
    · rintro ⟨fits, slow⟩
      exact
        { off := fun off => absurd off running.on
          fits := fun _ _ => fits
          slow := fun _ => slow }
    · intro gentle
      exact ⟨gentle.fits running (not_lt.mp long), gentle.slow running⟩
  by_cases off : runningMode registers = modeSetOff
  · constructor
    · intro approaches
      exact
        { off := fun _ => (narrowed_of_off long off).mp approaches.narrowed
          fits := fun runs => absurd runs running
          slow := fun runs => absurd runs running }
    · intro gentle
      have short := gentle.off off
      exact
        { narrowed := (narrowed_of_off long off).mpr short
          off := fun _ _ member =>
            update_mem_uIcc_of_off long off short member
          running := fun runs => absurd runs running }
  · refine iff_of_true ?_ ?_
    · have values : narrowed registers elapsed = [] := by
        rw [narrowed, if_neg long, if_neg off, if_neg running]
      exact
        { narrowed := values ▸ List.forall_mem_nil _
          off := fun idle => absurd idle off
          running := fun runs => absurd runs running }
    · exact
        { off := fun idle => absurd idle off
          fits := fun runs => absurd runs running
          slow := fun runs => absurd runs running }

/-! ## Runs -/

/-- The attractors are the same, and nothing is farther from its own. -/
structure Nearer (before after : SimulatedRegisters) : Prop where
  mode : runningMode after = runningMode before
  target : registerValue after regHeatingTarget =
    registerValue before regHeatingTarget
  off : runningMode before = modeSetOff →
    ∀ address ∈ driftingRegisters,
      (registerValue after address - ambientTemp).natAbs ≤
        (registerValue before address - ambientTemp).natAbs
  running : Running before →
    (registerValue after regLeavingWaterTemp -
        registerValue before regHeatingTarget).natAbs ≤
      (registerValue before regLeavingWaterTemp -
        registerValue before regHeatingTarget).natAbs

theorem Nearer.refl (registers : SimulatedRegisters) :
    Nearer registers registers where
  mode := rfl
  target := rfl
  off _ _ _ := le_rfl
  running _ := le_rfl

theorem Nearer.trans (first second third : SimulatedRegisters)
    (early : Nearer first second) (late : Nearer second third) :
    Nearer first third where
  mode := late.mode.trans early.mode
  target := late.target.trans early.target
  off off address member :=
    (late.off (early.mode.trans off) address member).trans
      (early.off off address member)
  running running := by
    have still : Running second := by
      rw [Running, early.mode]
      exact running
    have nearer := late.running still
    rw [early.target] at nearer
    exact nearer.trans (early.running running)

theorem natAbs_sub_le_of_mem_uIcc {before after attractor : Int}
    (between : after ∈ Set.uIcc before attractor) :
    (after - attractor).natAbs ≤ (before - attractor).natAbs := by
  rw [Set.mem_uIcc] at between
  omega

theorem Approaches.nearer {registers : SimulatedRegisters} {elapsed : ℚ}
    (approaches : Approaches registers elapsed) :
    Nearer registers (update registers elapsed) where
  mode := update_value_of_foreign (by decide)
  target := update_value_of_foreign (by decide)
  off off address member :=
    natAbs_sub_le_of_mem_uIcc (approaches.off off address member)
  running running := natAbs_sub_le_of_mem_uIcc (approaches.running running)

/-- No temperature of a run is ever farther from its attractor than before. -/
def NeverRecedes (registers : SimulatedRegisters) (times : List ℚ) : Prop :=
  ∀ earlier between later, times = earlier ++ between ++ later →
    Nearer (earlier.foldl update registers)
      ((earlier ++ between).foldl update registers)

/--
The simulation approaches its attractors in every step, and never recedes from
them, exactly when every step of the run is gentle.
-/
theorem simulation_approaches_iff (registers : SimulatedRegisters)
    (times : List ℚ) :
    Throughout update Approaches registers times ∧
        NeverRecedes registers times ↔
      Throughout update Gentle registers times := by
  constructor
  · rintro ⟨approaches, -⟩
    exact approaches.imp fun state elapsed => (approaches_iff state elapsed).mp
  · intro gentle
    have approaches := gentle.imp fun state elapsed =>
      (approaches_iff state elapsed).mpr
    refine ⟨approaches, ?_⟩
    apply Throughout.related Nearer.refl Nearer.trans
    exact approaches.imp fun _ _ => Approaches.nearer

/-- The first poll of the demo mode goes from 35 past 45 to 95 degrees. -/
theorem first_poll_overshoots :
    let start : SimulatedRegisters := SimulatedDevice.create.registers
    registerValue (update start 30) regLeavingWaterTemp = 950 ∧
      ¬ (Throughout update Approaches start [30, 30] ∧
        NeverRecedes start [30, 30]) := by
  intro start
  have first : registerValue (update start 30) regLeavingWaterTemp =
      950 := by
    decide +kernel
  refine ⟨first, fun holds => ?_⟩
  have between := (holds.1 [] 30 [30] rfl).running (by decide +kernel)
  rw [List.foldl_nil, first] at between
  exact absurd (natAbs_sub_le_of_mem_uIcc between) (by decide +kernel)

end SimulatedRegisters

end Windmi.Modbus
