import Windmi.Core.Circuits
import Windmi.Core.Effects

/-!
# A bus whose accesses may fail

Nobody but the loop writes the registers, but any access may throw.  A write
that throws may still have reached the device.  What a step of the loop leaves
in one register is then its old content or the value of the one write, and it
is that value for certain if nothing threw.
-/

namespace Windmi.Core

open Windmi.Modbus

variable {Device : Type}

/-- The registers behind a client change by its own writes only. -/
structure SoleMaster (client : IModbusClient Device)
    (registers : Device → RegisterFile) : Prop where
  connect : ∀ device,
    registers (client.connect device).2 = registers device
  read : ∀ address device,
    registers (client.readRegister address device).2 = registers device
  found : ∀ address device word,
    (client.readRegister address device).1 = some word →
      word = registers device address
  accepted : ∀ address value device,
    (client.writeRegister address value device).1 = true →
      registers (client.writeRegister address value device).2 =
        Function.update (registers device) address value
  refused : ∀ address value device,
    (client.writeRegister address value device).1 = false →
      registers (client.writeRegister address value device).2 =
          registers device ∨
        registers (client.writeRegister address value device).2 =
          Function.update (registers device) address value

/-! ## Counting the failures of a history -/

def Event.failed : Event → Bool
  | .read _ none => true
  | .write _ _ false _ => true
  | _ => false

/-- How many accesses threw. -/
def failures (history : List Event) : Nat :=
  history.countP Event.failed

theorem failures_append (newer history : List Event) :
    failures (newer ++ history) = failures newer + failures history :=
  List.countP_append

theorem Adds.failures_le {allowed : Event → Prop}
    {before after : World Device} (adds : Adds allowed before after) :
    failures before.bus.history ≤ failures after.bus.history := by
  rcases adds with ⟨newer, equal, -⟩
  rw [equal, failures_append]
  exact Nat.le_add_left ..

/-! ## What a step leaves in a register -/

def World.held (registers : Device → RegisterFile) (address : Address)
    (world : World Device) : Word :=
  registers world.bus.device address

/--
A step writes at most one value to a register, and leaves it there unless an
access threw.
-/
structure Leaves (registers : Device → RegisterFile) (address : Address)
    (value : Option Word) (before after : World Device) : Prop where
  grows : failures before.bus.history ≤ failures after.bus.history
  either : after.held registers address = before.held registers address ∨
    some (after.held registers address) = value
  faultless :
    failures after.bus.history = failures before.bus.history →
      after.held registers address =
        value.getD (before.held registers address)

section

variable {registers : Device → RegisterFile} {address : Address}
  {value : Option Word} {first second third : World Device}

theorem Leaves.untouched
    (leaves : Leaves registers address none first second) :
    second.held registers address = first.held registers address := by
  rcases leaves.either with same | impossible
  · exact same
  · cases impossible

theorem Leaves.refl (world : World Device) :
    Leaves registers address none world world where
  grows := Nat.le_refl _
  either := Or.inl rfl
  faultless := fun _ => rfl

/-- Steps before the write do not touch the register. -/
theorem Leaves.andThen (before : Leaves registers address none first second)
    (after : Leaves registers address value second third) :
    Leaves registers address value first third := by
  have grewBefore := before.grows
  have grewAfter := after.grows
  constructor
  case grows => exact Nat.le_trans grewBefore grewAfter
  case either =>
    rw [← before.untouched]
    exact after.either
  case faultless =>
    intro same
    rw [← before.untouched]
    exact after.faultless (by omega)

theorem Leaves.afterwards (before : Leaves registers address value first second)
    (after : Leaves registers address none second third) :
    Leaves registers address value first third := by
  have grewBefore := before.grows
  have grewAfter := after.grows
  constructor
  case grows => exact Nat.le_trans grewBefore grewAfter
  case either =>
    rw [after.untouched]
    exact before.either
  case faultless =>
    intro same
    rw [after.untouched]
    exact before.faultless (by omega)

/-- A write of one of the registers under a condition. -/
theorem Leaves.ite {named condition : Prop} [Decidable named]
    [Decidable condition]
    (leaves : Leaves registers address (if named then value else none) first
      second) :
    Leaves registers address (if named ∧ condition then value else none)
      first (if condition then second else first) := by
  by_cases holds : condition
  · rw [if_pos holds]
    simp only [holds, and_true]
    exact leaves
  · rw [if_neg holds, if_neg fun both => holds both.2]
    exact Leaves.refl first

/-- Events other than failures change nothing. -/
theorem Leaves.emit (world : World Device) {event : Event}
    (silent : event.failed = false) :
    Leaves registers address none world (world.emit event) := by
  have same : failures (world.emit event).bus.history =
      failures world.bus.history := by
    rw [failures, World.emit, List.countP_cons_of_neg (by simp [silent])]
    rfl
  exact ⟨same.ge, Or.inl rfl, fun _ => rfl⟩

theorem Leaves.updateLoop (world : World Device)
    (update : ControlLoop → ControlLoop) :
    Leaves registers address none world (world.updateLoop update) :=
  ⟨Nat.le_refl _, Or.inl rfl, fun _ => rfl⟩

/-- What follows a write depends on its success, but writes nothing. -/
theorem Leaves.followedBy {condition : Prop} [Decidable condition]
    (leaves : Leaves registers address value first second)
    (follows : Leaves registers address none second third) :
    Leaves registers address value first
      (if condition then third else second) := by
  split
  · exact leaves.afterwards follows
  · exact leaves

theorem Leaves.persisted (world : World Device)
    (update : ControlLoop → ControlLoop) :
    Leaves registers address none world
      (world.updateLoop update).fireSettingsCallback :=
  (Leaves.updateLoop world update).andThen (Leaves.emit _ rfl)

end

section

variable {client : IModbusClient Device} {registers : Device → RegisterFile}
  (sole : SoleMaster client registers) (address : Address)
  (world : World Device)

include sole

/-! ## Writers -/

theorem SoleMaster.writeRegister (written : Address) (value : Word) :
    Leaves registers address (if written = address then some value else none)
      world (world.writeRegister client written value).2 := by
  have grows := (writeRegister_adds client world written value).failures_le
  cases answer : (client.writeRegister written value world.bus.device).1 with
  | true =>
      have updated := sole.accepted written value world.bus.device answer
      by_cases same : written = address
      · have holds : (world.writeRegister client written value).2.held
            registers address = value := by
          rw [World.held, World.writeRegister, updated, same]
          exact Function.update_self ..
        rw [if_pos same]
        exact ⟨grows, Or.inr (congrArg some holds), fun _ => holds⟩
      · have kept : (world.writeRegister client written value).2.held
            registers address = world.held registers address := by
          rw [World.held, World.writeRegister, updated]
          exact Function.update_of_ne (Ne.symm same) ..
        rw [if_neg same]
        exact ⟨grows, Or.inl kept, fun _ => kept⟩
  | false =>
      have failed : failures (world.writeRegister client written
          value).2.bus.history ≠ failures world.bus.history := by
        rw [World.writeRegister, answer, failures,
          List.countP_cons_of_pos rfl]
        exact Nat.succ_ne_self _
      refine ⟨grows, ?_, fun same => absurd same failed⟩
      simp only [World.held, World.writeRegister]
      rcases sole.refused written value world.bus.device answer with
        lost | reached
      · exact Or.inl (congrFun lost address)
      · rw [reached]
        by_cases same : written = address
        · rw [if_pos same, same, Function.update_self]
          exact Or.inr rfl
        · exact Or.inl (Function.update_of_ne (Ne.symm same) ..)

theorem SoleMaster.writeOther {written : Address} (value : Word)
    (different : written ≠ address) :
    Leaves registers address none world
      (world.writeRegister client written value).2 := by
  have leaves := sole.writeRegister address world written value
  rwa [if_neg different] at leaves

theorem SoleMaster.setRunningMode (mode : Int)
    (different : regRunningMode ≠ address) :
    Leaves registers address none world
      (setRunningMode client mode world).2 := by
  simp only [Windmi.Core.setRunningMode]
  split_ifs
  · exact Leaves.refl world
  · exact sole.writeOther address world _ different
  · exact sole.writeOther address world _ different

theorem SoleMaster.setDhwTarget (temp : ℚ) :
    Leaves registers address
      (if regDhwTarget = address then some (tempToRaw temp) else none)
      world (setDhwTarget client temp world).2 := by
  have written := sole.writeRegister address world regDhwTarget
    (tempToRaw temp)
  rw [setDhwTarget_world]
  exact written.followedBy (Leaves.persisted ..)

theorem SoleMaster.setHeatingTarget (temp : ℚ) :
    Leaves registers address
      (if regHeatingTarget = address then some (tempToRaw temp) else none)
      world (setHeatingTarget client temp world).2 := by
  have written := sole.writeRegister address world regHeatingTarget
    (tempToRaw temp)
  rw [setHeatingTarget_world]
  exact written.followedBy (Leaves.persisted ..)

theorem SoleMaster.writePriority (value : Word) (priority : PriorityMode)
    (different : regDhwPriority ≠ address) :
    Leaves registers address none world
      (writePriority client value priority world).2 := by
  have written := sole.writeOther address world value different
  rw [writePriority_world]
  exact written.followedBy (Leaves.updateLoop ..)

/-! ## Polls -/

/-- Reads change nothing and find what the registers contain, if anything. -/
theorem SoleMaster.readAll (addresses : List Address) (device : Device) :
    registers (readAll client addresses device).2 = registers device ∧
      ∀ address word,
        (Windmi.Core.readAll client addresses device).1 address =
            some word →
          word = registers device address := by
  induction addresses generalizing device with
  | nil =>
      refine ⟨rfl, ?_⟩
      intro address word impossible
      cases impossible
  | cons head addresses ih =>
      have unchanged := sole.read head device
      rcases ih (client.readRegister head device).2 with ⟨tail, found⟩
      refine ⟨tail.trans unchanged, ?_⟩
      intro address word equal
      simp only [Windmi.Core.readAll] at equal
      by_cases same : address = head
      · rw [same, Function.update_self] at equal
        rw [same]
        exact sole.found head device word equal
      · rw [Function.update_of_ne same] at equal
        rw [found address word equal, unchanged]

omit sole in
/-- A poll without failures finds every register it reads. -/
theorem outcome_of_faultless {outcome : Outcomes} {addresses : List Address}
    {history : List Event}
    (faultless : failures (readEvents outcome addresses ++ history) =
      failures history) :
    ∀ address ∈ addresses, (outcome address).isSome := by
  intro address member
  cases found : outcome address with
  | some word => rfl
  | none =>
      have inside : Event.read address none ∈
          readEvents outcome addresses := by
        simp only [readEvents, List.mem_reverse, List.mem_map]
        exact ⟨address, member, by rw [found]⟩
      have positive : 0 < failures (readEvents outcome addresses) :=
        List.countP_pos_iff.mpr ⟨_, inside, rfl⟩
      rw [failures_append] at faultless
      omega

end

/-! ## Both circuits -/

/-- What the enforcement writes in the modes that serve a circuit. -/
def Circuit.restoring (circuit : Circuit) (status : StatusSnapshot)
    (loop : ControlLoop) : Option Word :=
  if circuit.Restores status loop then some (tempToRaw (circuit.saved loop))
  else none

theorem Circuit.restoring_idle (circuit : Circuit) (status : StatusSnapshot)
    {loop : ControlLoop} (notBoth : loop.desiredWorkingMode ≠ 3) :
    circuit.restoring status loop = none :=
  if_neg fun restores => notBoth restores.1

theorem Circuit.restoring_both (circuit : Circuit) (status : StatusSnapshot)
    {loop : ControlLoop} (both : loop.desiredWorkingMode = 3) :
    circuit.restoring status loop =
      if Apart (circuit.reported status) (circuit.saved loop) then
        some (tempToRaw (circuit.saved loop))
      else
        none := by
  unfold Circuit.restoring
  by_cases apart : Apart (circuit.reported status) (circuit.saved loop)
  · rw [if_pos apart, if_pos ⟨both, apart⟩]
  · rw [if_neg apart, if_neg fun restores => apart restores.2]

section

variable {client : IModbusClient Device} {registers : Device → RegisterFile}
  (sole : SoleMaster client registers) {circuit : Circuit}
  (member : circuit ∈ [dhwCircuit, heatingCircuit]) (world : World Device)

include sole member

/-- Commands of other kinds leave the target alone. -/
theorem SoleMaster.processCommand {cmd : Command}
    (notSet : cmd.type ≠ circuit.setKind)
    (notMode : cmd.type ≠ .setRunningMode) :
    Leaves registers circuit.register none world
      (processCommand client cmd world) := by
  rcases Circuit.register_ne member with ⟨-, priority, occupancy⟩
  have entered : Leaves registers circuit.register none world
      (world.emit (.command cmd)) :=
    Leaves.emit world rfl
  refine entered.andThen ?_
  unfold Windmi.Core.processCommand
  cases kind : cmd.type with
  | setDhwTemp =>
      have other : regDhwTarget ≠ circuit.register := by
        rcases Circuit.dhw_or_heating member with rfl | rfl
        · exact absurd kind notSet
        · decide
      have written := sole.setDhwTarget circuit.register
        (world.emit (.command cmd)) cmd.floatVal
      rw [if_neg other] at written
      exact written.afterwards (Leaves.updateLoop ..)
  | setHeatingTemp =>
      have other : regHeatingTarget ≠ circuit.register := by
        rcases Circuit.dhw_or_heating member with rfl | rfl
        · decide
        · exact absurd kind notSet
      have written := sole.setHeatingTarget circuit.register
        (world.emit (.command cmd)) cmd.floatVal
      rw [if_neg other] at written
      exact written.afterwards (Leaves.updateLoop ..)
  | setPriority =>
      simp only [processSetPriority]
      exact (sole.writePriority _ _ _ _ priority).followedBy
        (Leaves.emit _ rfl)
  | setOccupancyMode => exact sole.writeOther _ _ _ occupancy
  | setRunningMode => exact absurd kind notMode

/-! ## The control logic -/

theorem SoleMaster.correctDeviceMode :
    Leaves registers circuit.register none world
      (correctDeviceMode client world) := by
  rcases Circuit.register_ne member with ⟨running, -, -⟩
  simp only [Windmi.Core.correctDeviceMode]
  split_ifs
  · exact (sole.setRunningMode _ _ _ running).afterwards
      (Leaves.updateLoop ..)
  · exact sole.setRunningMode _ _ _ running
  · exact Leaves.refl world

theorem SoleMaster.enforcePriority :
    Leaves registers circuit.register none world
      (enforcePriority client world) := by
  rcases Circuit.register_ne member with ⟨-, priority, -⟩
  unfold Windmi.Core.enforcePriority
  split
  · split_ifs
    · exact sole.writePriority _ _ _ _ priority
    · exact Leaves.refl world
  · split_ifs
    · exact sole.writePriority _ _ _ _ priority
    · exact Leaves.refl world
  · split_ifs
    · exact sole.writePriority _ _ _ _ priority
    · exact Leaves.refl world
  · exact Leaves.refl world

omit member in
theorem SoleMaster.restoreDhwTarget (address : Address)
    (status : StatusSnapshot) :
    Leaves registers address
      (if regDhwTarget = address ∧
          Apart status.dhwTarget world.loop.savedDhwTarget then
        some (tempToRaw world.loop.savedDhwTarget)
      else
        none) world (restoreDhwTarget client status world) := by
  unfold Windmi.Core.restoreDhwTarget
  exact (sole.setDhwTarget address world world.loop.savedDhwTarget).ite

omit member in
theorem SoleMaster.restoreHeatingTarget (address : Address)
    (status : StatusSnapshot) :
    Leaves registers address
      (if regHeatingTarget = address ∧
          Apart status.heatingTarget world.loop.savedHeatingTarget then
        some (tempToRaw world.loop.savedHeatingTarget)
      else
        none) world (restoreHeatingTarget client status world) := by
  unfold Windmi.Core.restoreHeatingTarget
  exact (sole.setHeatingTarget address world
    world.loop.savedHeatingTarget).ite

/-- In a mode that serves the circuit its minimum is not enforced. -/
theorem SoleMaster.enforceTargets (status : StatusSnapshot)
    (serves : world.loop.desiredWorkingMode ≠ circuit.offMode) :
    Leaves registers circuit.register (circuit.restoring status world.loop)
      world (enforceTargets client status world) := by
  unfold Windmi.Core.enforceTargets
  split
  case h_1 one =>
    rw [circuit.restoring_idle status (by rw [one]; decide)]
    rw [one] at serves
    rcases Circuit.dhw_or_heating member with rfl | rfl
    · have written := sole.setHeatingTarget regDhwTarget world
        heatingTargetMin
      rw [if_neg (by decide)] at written
      split
      · exact written
      · exact Leaves.refl world
    · exact absurd rfl serves
  case h_2 two =>
    rw [circuit.restoring_idle status (by rw [two]; decide)]
    rw [two] at serves
    rcases Circuit.dhw_or_heating member with rfl | rfl
    · exact absurd rfl serves
    · have written := sole.setDhwTarget regHeatingTarget world
        dhwTargetMin
      rw [if_neg (by decide)] at written
      split
      · exact written
      · exact Leaves.refl world
  case h_3 three =>
    let dhw := Windmi.Core.restoreDhwTarget client status world
    have heatingSaved : dhw.loop.savedHeatingTarget =
        world.loop.savedHeatingTarget := by
      rcases restoreDhwTarget_loop client world status with ⟨_, equal⟩
      rw [equal]
    rcases Circuit.dhw_or_heating member with rfl | rfl
    · have first := sole.restoreDhwTarget world regDhwTarget status
      have second := sole.restoreHeatingTarget dhw regDhwTarget status
      rw [if_neg fun both => absurd both.1 (by decide)] at second
      simp only [true_and] at first
      rw [Circuit.restoring_both _ status three]
      exact first.afterwards second
    · have first := sole.restoreDhwTarget world regHeatingTarget status
      have second := sole.restoreHeatingTarget dhw regHeatingTarget status
      rw [if_neg fun both => absurd both.1 (by decide)] at first
      simp only [true_and, heatingSaved] at second
      rw [Circuit.restoring_both _ status three]
      exact first.andThen second
  case h_4 _ _ other =>
    rw [circuit.restoring_idle status other]
    exact Leaves.refl world

theorem SoleMaster.applyControlLogic (status : StatusSnapshot)
    (serves : world.loop.desiredWorkingMode ≠ circuit.offMode) :
    Leaves registers circuit.register (circuit.restoring status world.loop)
      world (applyControlLogic client status world) := by
  let corrected := Windmi.Core.correctDeviceMode client (world.emit .control)
  obtain ⟨sameMode, saved⟩ : corrected.loop.desiredWorkingMode =
      world.loop.desiredWorkingMode ∧
        circuit.saved corrected.loop = circuit.saved world.loop :=
    Circuit.correctDeviceMode_keeps member client (world.emit .control)
  have entered : Leaves registers circuit.register none world corrected :=
    (Leaves.emit world rfl).andThen (sole.correctDeviceMode member _)
  have targets := sole.enforceTargets member corrected status
    (by rwa [sameMode])
  have same : circuit.restoring status corrected.loop =
      circuit.restoring status world.loop := by
    have restores : circuit.Restores status corrected.loop ↔
        circuit.Restores status world.loop := by
      rw [Circuit.Restores, Circuit.Restores, sameMode, saved]
    rw [Circuit.restoring, Circuit.restoring, saved]
    exact if_congr restores rfl rfl
  rw [← same]
  exact (entered.andThen targets).afterwards (sole.enforcePriority member _)

end

end Windmi.Core
