import Windmi.Core.Mirroring
import Windmi.Modbus.Simulation

/-!
# The control loop in demo mode

Whenever it is called the simulated device advances its temperatures, its
running status and its currents, by however much time has passed.  None of
these registers is one that the control logic reads, so that the control loop
decides in demo mode what it decides on a device that just keeps what is
written to it.
-/

namespace Windmi.Modbus

open Windmi.Core

/-! ## What a step of the simulation leaves -/

theorem storeValue_of_ne {address other : Address} (different : other ≠ address)
    (value : Int) (registers : SimulatedRegisters) :
    storeValue address value registers other = registers other :=
  Function.update_of_ne different _ _

theorem storeValue_self (address : Address) (value : Int)
    (registers : SimulatedRegisters) :
    storeValue address value registers address =
      some (BitVec.ofInt 16 value) :=
  Function.update_self _ _ _

theorem storeValue_present (address : Address) (value : Int)
    {registers : SimulatedRegisters} {other : Address}
    (present : (registers other).isSome = true) :
    (storeValue address value registers other).isSome = true := by
  by_cases same : other = address
  · subst same
    rw [storeValue_self]
    rfl
  · rw [storeValue_of_ne same]
    exact present

namespace SimulatedRegisters

/-- A step stores nothing but what a step may write. -/
theorem update_induction {motive : SimulatedRegisters → Prop}
    (stored : ∀ address ∈ simulatedAddresses, ∀ value registers,
      motive registers → motive (storeValue address value registers))
    (elapsed : ℚ) {registers : SimulatedRegisters}
    (start : motive registers) :
    motive (updateSimulationLocked elapsed registers) := by
  have off : motive (simulateOff elapsed registers) := by
    unfold simulateOff
    iterate 5 apply stored _ (by decide)
    exact start
  have running (mode : Int) :
      motive (simulateRunning elapsed mode registers) := by
    unfold simulateRunning
    iterate 2 apply stored _ (by decide)
    exact start
  unfold updateSimulationLocked
  dsimp only
  split
  · exact start
  · generalize reached : (if registerValue registers regRunningMode =
      modeSetOff then _ else _) = simulated
    have kept : motive simulated := by
      rw [← reached]
      split_ifs
      · exact off
      · exact running _
      · exact start
    split
    · iterate 2 apply stored _ (by decide)
      exact kept
    · exact kept

variable (elapsed : ℚ) (registers : SimulatedRegisters) {address : Address}

theorem update_of_foreign (foreign : address ∉ simulatedAddresses) :
    updateSimulationLocked elapsed registers address =
      registers address := by
  apply update_induction (motive := fun simulated =>
    simulated address = registers address)
  · intro other member value simulated kept
    have different := ne_of_mem_of_not_mem member foreign
    exact (storeValue_of_ne different.symm value simulated).trans kept
  · rfl

/-- No register disappears. -/
theorem update_present (present : (registers address).isSome = true) :
    (updateSimulationLocked elapsed registers address).isSome = true := by
  apply update_induction (motive := fun simulated =>
    (simulated address).isSome = true)
  · intro other member value simulated present
    exact storeValue_present other value present
  · exact present

end SimulatedRegisters

/-! ## The demo device -/

/-- The simulated device, with the time before each call that advances it. -/
structure DemoDevice where
  device : SimulatedDevice
  elapsed : Nat → ℚ

/-- The device after a call that takes the next time. -/
def DemoDevice.advance (demo : DemoDevice) (device : SimulatedDevice) :
    DemoDevice where
  device := device
  elapsed call := demo.elapsed (call + 1)

def demoClient : IModbusClient DemoDevice where
  connect demo :=
    let attempt :=
      (simulatedModbusClient (demo.elapsed 0)).connect demo.device
    (attempt.1, { demo with device := attempt.2 })
  disconnect demo :=
    { demo with
      device :=
        (simulatedModbusClient (demo.elapsed 0)).disconnect demo.device }
  isConnected demo :=
    (simulatedModbusClient (demo.elapsed 0)).isConnected demo.device
  readRegister address demo :=
    let read :=
      (simulatedModbusClient (demo.elapsed 0)).readRegister address
        demo.device
    (read.1, demo.advance read.2)
  writeRegister address value demo :=
    let written :=
      (simulatedModbusClient (demo.elapsed 0)).writeRegister address value
        demo.device
    (written.1, demo.advance written.2)
  flushBuffer demo :=
    { demo with
      device :=
        (simulatedModbusClient (demo.elapsed 0)).flushBuffer demo.device }

/-- The device which `main` hands to the control loop in demo mode. -/
def DemoDevice.start (elapsed : Nat → ℚ) : DemoDevice :=
  (demoClient.connect
    { device := SimulatedDevice.create, elapsed := elapsed }).2

/-- A device that keeps what the simulated one starts with. -/
def demoRegisters : RegisterFile := fun address =>
  (SimulatedDevice.create.registers address).getD 0

/-! ## The two devices compared -/

/-- The demo device has the control registers of a register file. -/
structure Shadows (demo : DemoDevice) (registers : RegisterFile) : Prop where
  connected : demo.device.connected = true
  control : ∀ address ∈ controlRegisters,
    demo.device.registers address = some (registers address)
  critical : ∀ address ∈ criticalRegisters,
    (demo.device.registers address).isSome = true

theorem controlRegisters_foreign :
    ∀ address ∈ controlRegisters,
      address ∉ SimulatedRegisters.simulatedAddresses := by
  have distinct : (controlRegisters ++
      SimulatedRegisters.simulatedAddresses).Nodup := by
    decide
  intro address member
  exact fun simulated =>
    List.disjoint_of_nodup_append distinct member simulated

theorem demoClient_readRegister {demo : DemoDevice}
    (connected : demo.device.connected = true) (address : Address) :
    demoClient.readRegister address demo =
      (updateSimulationLocked (demo.elapsed 0) demo.device.registers address,
        demo.advance
          { registers :=
              updateSimulationLocked (demo.elapsed 0) demo.device.registers
            connected := true }) := by
  rcases demo with ⟨⟨registers, flag⟩, elapsed⟩
  cases connected
  rfl

theorem demoClient_writeRegister {demo : DemoDevice}
    (connected : demo.device.connected = true) (address : Address)
    (value : Word) :
    demoClient.writeRegister address value demo =
      (true, demo.advance
        { registers := Function.update
            (updateSimulationLocked (demo.elapsed 0) demo.device.registers)
            address (some value)
          connected := true }) := by
  rcases demo with ⟨⟨registers, flag⟩, elapsed⟩
  cases connected
  rfl

section

variable {demo : DemoDevice} {registers : RegisterFile}

theorem Shadows.advanced (shadows : Shadows demo registers) :
    Shadows (demo.advance
      { registers :=
          updateSimulationLocked (demo.elapsed 0) demo.device.registers
        connected := true }) registers where
  connected := rfl
  control address member := by
    have foreign := controlRegisters_foreign address member
    have kept := SimulatedRegisters.update_of_foreign (demo.elapsed 0)
      demo.device.registers foreign
    exact kept.trans (shadows.control address member)
  critical address member :=
    SimulatedRegisters.update_present _ _ (shadows.critical address member)

theorem Shadows.written (shadows : Shadows demo registers)
    (address : Address) (value : Word) :
    Shadows (demo.advance
      { registers := Function.update
          (updateSimulationLocked (demo.elapsed 0) demo.device.registers)
          address (some value)
        connected := true }) (Function.update registers address value) where
  connected := rfl
  control other member := by
    have advanced := shadows.advanced.control other member
    dsimp only [DemoDevice.advance] at advanced ⊢
    by_cases same : other = address
    · subst same
      rw [Function.update_self, Function.update_self]
    · rw [Function.update_of_ne same, Function.update_of_ne same]
      exact advanced
  critical other member := by
    have advanced := shadows.advanced.critical other member
    dsimp only [DemoDevice.advance] at advanced ⊢
    by_cases same : other = address
    · subst same
      rw [Function.update_self]
      rfl
    · rw [Function.update_of_ne same]
      exact advanced

end

/-- The control loop cannot tell the demo device from a register file. -/
theorem demoClient_mirrors :
    Mirrors decisionView demoClient registerFile Shadows where
  read demo registers shadows address := by
    rw [demoClient_readRegister shadows.connected]
    exact shadows.advanced
  control demo registers shadows address member := by
    rw [demoClient_readRegister shadows.connected]
    exact shadows.advanced.control address member
  critical demo registers shadows address member := by
    rw [demoClient_readRegister shadows.connected]
    exact shadows.advanced.critical address member
  write demo registers shadows address value := by
    rw [demoClient_writeRegister shadows.connected]
    exact ⟨rfl, shadows.written address value⟩
  reads _ _ _ _ := rfl
  connected demo registers shadows := ⟨shadows.connected, rfl⟩
  coherent := decisionView_coherent

theorem foldl_storeValue_present (entries : List (Address × Int))
    (registers : SimulatedRegisters) {address : Address}
    (stored : (registers address).isSome = true ∨
      address ∈ entries.map Prod.fst) :
    (entries.foldl (fun registers entry =>
      storeValue entry.1 entry.2 registers) registers address).isSome =
        true := by
  induction entries generalizing registers with
  | nil =>
      rcases stored with present | none
      · exact present
      · exact absurd none List.not_mem_nil
  | cons entry entries ih =>
      apply ih
      rcases stored with present | member
      · exact Or.inl (storeValue_present _ _ present)
      · rcases List.mem_cons.mp member with rfl | later
        · left
          dsimp only
          rw [storeValue_self]
          rfl
        · exact Or.inr later

/-- The constructor sets every register that a poll or the control needs. -/
theorem create_complete {address : Address}
    (needed : address ∈ controlRegisters ++ criticalRegisters) :
    (SimulatedDevice.create.registers address).isSome = true := by
  apply foldl_storeValue_present
  right
  have known : controlRegisters ++ criticalRegisters ⊆
      [regUnitCapacity, regOutdoorTemp, regIndoorTemp, regEnteringWaterTemp,
        regLeavingWaterTemp, regRunningMode, regRunningStatus, regDhwTarget,
        regHeatingTarget, regDhwTankTemp, regDhwPriority, regAcCurrent,
        regDcCurrent, regAcVoltage, regDcVoltage] := by
    decide
  exact known needed

theorem shadows_start (elapsed : Nat → ℚ) :
    Shadows (DemoDevice.start elapsed) demoRegisters where
  connected := rfl
  control address member := by
    have present := create_complete (List.mem_append_left _ member)
    rcases Option.isSome_iff_exists.mp present with ⟨value, stored⟩
    have start : demoRegisters address = value := by
      rw [demoRegisters, stored, Option.getD_some]
    rw [start]
    exact stored
  critical address member :=
    create_complete (List.mem_append_right _ member)

/-! ## Whole runs -/

/--
However the time passes between the calls, the control loop decides in demo
mode what it decides on a register file, and the control registers of the two
devices are the same.
-/
theorem demo_mode_decides_alike (elapsed : Nat → ℚ) (loop : ControlLoop)
    (batches : List (List Command)) :
    let demo := threadRun demoClient loop (.start elapsed) batches
    let plain := threadRun registerFile loop demoRegisters batches
    demo.loop = plain.loop ∧
      decisionView.seen demo.bus.history =
        decisionView.seen plain.bus.history ∧
      demo.bus.device.device.connected = true ∧
      ∀ address ∈ controlRegisters,
        demo.bus.device.device.registers address =
          some (plain.bus.device address) := by
  have run := demoClient_mirrors.threadRun (shadows_start elapsed) loop
    batches
  exact ⟨run.loop, run.seen, run.device.connected, run.device.control⟩

end Windmi.Modbus
