import Windmi.Core.Settling

/-!
# The priority register and its copy in memory

The control logic compares the demanded priority with `current_priority_`,
which is set from the persisted settings and never read from the device.  It
enforces the register as long as the two agree, and it writes the register
whenever the copy is not the demanded one; every mode command from 1 to 3 and
every priority command makes the two agree.
-/

namespace Windmi.Core

open Windmi.Modbus

/-- The priority register holds what the loop believes. -/
def PriorityAgrees (world : World RegisterFile) : Prop :=
  world.bus.device regDhwPriority =
    priorityWord world.loop.currentPriority

/-- Commands that write the priority register. -/
def Command.SetsPriority (cmd : Command) : Prop :=
  cmd.type = .setPriority ∨
    cmd.type = .setRunningMode ∧
      (cmd.intVal = 1 ∨ cmd.intVal = 2 ∨ cmd.intVal = 3)

/-- The API admits the priorities 0 and 1 only. -/
def Command.PriorityInRange (cmd : Command) : Prop :=
  cmd.type = .setPriority → cmd.intVal = 0 ∨ cmd.intVal = 1

section

variable {world : World RegisterFile} {cmd : Command}

theorem processCommand_agrees (legal : cmd.PriorityInRange)
    (sets : cmd.SetsPriority) :
    PriorityAgrees (processCommand registerFile cmd world) := by
  rcases sets with kind | ⟨kind, mode⟩
  · rcases legal kind with value | value
    · simp only [processCommand, kind, processSetPriority, value]
      rfl
    · simp only [processCommand, kind, processSetPriority, value]
      rfl
  · rcases mode with mode | mode | mode
    · simp only [processCommand, kind, processSetRunningMode, mode]
      rfl
    · simp only [processCommand, kind, processSetRunningMode, mode]
      rfl
    · simp only [processCommand, kind, processSetRunningMode, mode]
      rfl

/-- Any other command leaves the register and the copy alone. -/
theorem processCommand_keeps_priority (world : World RegisterFile)
    (other : ¬ cmd.SetsPriority) :
    (processCommand registerFile cmd world).loop.currentPriority =
        world.loop.currentPriority ∧
      (processCommand registerFile cmd world).bus.device regDhwPriority =
        world.bus.device regDhwPriority := by
  have written : ∀ address value, regDhwPriority ≠ address →
      Function.update world.bus.device address value regDhwPriority =
        world.bus.device regDhwPriority := by
    intro address value different
    rw [Function.update_of_ne different]
  unfold processCommand
  cases kind : cmd.type with
  | setDhwTemp =>
      exact ⟨rfl, written regDhwTarget (tempToRaw cmd.floatVal) (by decide)⟩
  | setHeatingTemp =>
      exact ⟨rfl,
        written regHeatingTarget (tempToRaw cmd.floatVal) (by decide)⟩
  | setOccupancyMode =>
      exact ⟨rfl,
        written regOccupancyMode (BitVec.ofInt 16 cmd.intVal) (by decide)⟩
  | setPriority => exact absurd (Or.inl kind) other
  | setRunningMode =>
      have mode : ¬ (cmd.intVal = 1 ∨ cmd.intVal = 2 ∨ cmd.intVal = 3) :=
        fun mode => other (Or.inr ⟨kind, mode⟩)
      push Not at mode
      rcases mode with ⟨notOne, notTwo, notThree⟩
      dsimp only
      rw [processSetRunningMode_registerFile,
        overrideTargets_other notOne notTwo notThree]
      exact ⟨rfl, written regRunningMode
        (BitVec.ofInt 16 (targetDeviceMode cmd.intVal)) (by decide)⟩

theorem PriorityAgrees.processCommand (agrees : PriorityAgrees world)
    (legal : cmd.PriorityInRange) :
    PriorityAgrees (processCommand registerFile cmd world) := by
  by_cases sets : cmd.SetsPriority
  · exact processCommand_agrees legal sets
  · rcases processCommand_keeps_priority world sets with ⟨memory, register⟩
    rw [PriorityAgrees, memory, register]
    exact agrees

end

section

variable {world : World RegisterFile} {batch : List Command}

theorem PriorityAgrees.processCommands (agrees : PriorityAgrees world)
    (legal : ∀ cmd ∈ batch, cmd.PriorityInRange) :
    PriorityAgrees (processCommands registerFile batch world) :=
  List.foldlRecOn batch _ agrees fun _ previous cmd member =>
    previous.processCommand (legal cmd member)

/-- A batch that sets the priority makes the two agree. -/
theorem processCommands_agrees
    (legal : ∀ cmd ∈ batch, cmd.PriorityInRange)
    (sets : ∃ cmd ∈ batch, cmd.SetsPriority) :
    PriorityAgrees (processCommands registerFile batch world) := by
  rcases sets with ⟨cmd, member, setsPriority⟩
  rcases List.append_of_mem member with ⟨before, after, rfl⟩
  have established : PriorityAgrees
      (processCommand registerFile cmd
        (processCommands registerFile before world)) :=
    processCommand_agrees (legal cmd member) setsPriority
  rw [processCommands_append_cons]
  refine established.processCommands ?_
  intro later inside
  exact legal later (by simp [inside])

theorem processCommands_keeps_priority (world : World RegisterFile)
    (others : ∀ cmd ∈ batch, ¬ cmd.SetsPriority) :
    (processCommands registerFile batch world).loop.currentPriority =
        world.loop.currentPriority ∧
      (processCommands registerFile batch world).bus.device
          regDhwPriority =
        world.bus.device regDhwPriority := by
  refine List.foldlRecOn
    (motive := fun after : World RegisterFile =>
      after.loop.currentPriority = world.loop.currentPriority ∧
        after.bus.device regDhwPriority = world.bus.device regDhwPriority)
    batch _ ⟨rfl, rfl⟩ ?_
  rintro previous ⟨memory, register⟩ cmd member
  rcases processCommand_keeps_priority previous (others cmd member) with
    ⟨sameMemory, sameRegister⟩
  exact ⟨sameMemory.trans memory, sameRegister.trans register⟩

/-- What an iteration makes of the register, after its commands. -/
theorem iteration_regDhwPriority (batch : List Command)
    (world : World RegisterFile) :
    let commanded := processCommands registerFile batch world
    let after := iteration registerFile batch world
    after.loop.desiredWorkingMode = commanded.loop.desiredWorkingMode ∧
      after.bus.device regDhwPriority =
        enforcedPriority commanded.loop
          (commanded.bus.device regDhwPriority) := by
  intro commanded after
  rcases iteration_loop batch world with ⟨dhw, heating, loopEqual⟩
  have device := iteration_device batch world
  constructor
  · have mode := congrArg ControlLoop.desiredWorkingMode loopEqual
    exact mode.trans (observe_desiredWorkingMode _ _)
  · rw [device, enforcedRegisters_regDhwPriority]
    unfold enforcedPriority observed
    rw [observe_desiredWorkingMode, observe_currentPriority]

theorem enforcedPriority_eq_iff {loop : ControlLoop} {raw : Word}
    {required : PriorityMode}
    (demanded :
      requiredPriority loop.desiredWorkingMode = some required) :
    enforcedPriority loop raw = priorityWord required ↔
      raw = priorityWord loop.currentPriority ∨
        loop.currentPriority ≠ required := by
  rw [enforcedPriority, demanded]
  dsimp only
  split_ifs with different
  · exact iff_of_true rfl (Or.inr different)
  · rw [not_not.mp different]
    simp

/-- The iteration enforces the priority unless all three conditions fail. -/
theorem iteration_priority_iff
    (legal : ∀ cmd ∈ batch, cmd.PriorityInRange)
    {required : PriorityMode}
    (demanded :
      requiredPriority
        (iteration registerFile batch world).loop.desiredWorkingMode =
          some required) :
    (iteration registerFile batch world).bus.device regDhwPriority =
        priorityWord required ↔
      PriorityAgrees world ∨ (∃ cmd ∈ batch, cmd.SetsPriority) ∨
        world.loop.currentPriority ≠ required := by
  rcases iteration_regDhwPriority batch world with ⟨mode, register⟩
  rw [mode] at demanded
  rw [register, enforcedPriority_eq_iff demanded]
  by_cases sets : ∃ cmd ∈ batch, cmd.SetsPriority
  · exact iff_of_true (Or.inl (processCommands_agrees legal sets))
      (Or.inr (Or.inl sets))
  · have others : ∀ cmd ∈ batch, ¬ cmd.SetsPriority := by
      intro cmd member setsPriority
      exact sets ⟨cmd, member, setsPriority⟩
    rcases processCommands_keeps_priority world others with
      ⟨sameMemory, sameRegister⟩
    rw [sameMemory, sameRegister]
    unfold PriorityAgrees
    tauto

end

/--
After one failure-free iteration the priority register holds the demanded
priority exactly if, at its start, the register agrees with the copy in memory
or the copy is not the demanded one, or if one of its commands sets it.
-/
theorem iteration_enforces_priority_iff (loop : ControlLoop)
    (registers : RegisterFile) (history : List Event)
    {batch : List Command}
    (legal : ∀ cmd ∈ batch, cmd.PriorityInRange) :
    let after :=
      iteration registerFile batch
        { loop := loop, bus := { device := registers, history := history } }
    let known := fun required =>
      registers regDhwPriority = priorityWord loop.currentPriority ∨
        (∃ cmd ∈ batch, cmd.SetsPriority) ∨ loop.currentPriority ≠ required
    (after.loop.desiredWorkingMode = 1 ∨
        after.loop.desiredWorkingMode = 3 →
      (after.bus.device regDhwPriority = 1 ↔ known .dhw)) ∧
      (after.loop.desiredWorkingMode = 2 →
        (after.bus.device regDhwPriority = 0 ↔ known .heating)) := by
  intro after known
  constructor
  · intro mode
    have demanded :
        requiredPriority after.loop.desiredWorkingMode = some .dhw := by
      simp [requiredPriority, mode]
    exact iteration_priority_iff legal demanded
  · intro mode
    have demanded :
        requiredPriority after.loop.desiredWorkingMode = some .heating := by
      simp [requiredPriority, mode]
    exact iteration_priority_iff legal demanded

theorem iteration_enforces_priority_iff_fresh :
    let loop := ControlLoop.setInitialSettings {} 3 "heating" 45 40
    let after :=
      iteration registerFile []
        { loop := loop, bus := { device := fun _ => 0, history := [] } }
    after.bus.device regDhwPriority = 1 := by
  intro loop after
  have legal : ∀ cmd ∈ ([] : List Command), cmd.PriorityInRange := by
    simp
  have enforced :=
    iteration_enforces_priority_iff loop (fun _ => 0) [] legal
  exact (enforced.1 (by decide +kernel)).mpr
    (Or.inr (Or.inr (by decide)))

/-- With the default settings, a cleared register stays cleared in mode 3. -/
theorem iteration_leaves_priority_cleared :
    let loop := (threadRun registerFile
      (ControlLoop.setInitialSettings {} 3 "dhw" 45 40) (fun _ => 0) []).loop
    let after :=
      iteration registerFile []
        { loop := loop, bus := { device := fun _ => 0, history := [] } }
    Reachable loop ∧ after.loop.desiredWorkingMode = 3 ∧
      ¬ after.bus.device regDhwPriority = 1 := by
  intro loop after
  refine ⟨?_, ?_, ?_⟩
  · exact ⟨RegisterFile, registerFile, fun _ => 0, 3, "dhw", 45, 40, [],
      by simp, rfl⟩
  · decide +kernel
  · decide +kernel

end Windmi.Core
