import Windmi.Core.Effects
import Windmi.Library.History

/-!
# Which registers the loop may write, and when

The safety core of the controller.  A value written to `REG_RUNNING_MODE` is
Off exactly under an Off request and Heat + DHW otherwise.  Only five
registers are ever written, and while the last mode command asks for Off
nothing but an explicit setpoint, priority or occupancy command writes any of
the other four.

The laws hold of the history of every run, over every client: whatever the
device contains and whichever accesses fail.
-/

namespace Windmi.Core

open Windmi.Library
open Windmi.Modbus

/-! ## The laws -/

/-- The working mode which an event asks for. -/
def Event.modeCommand : Event → Option Int
  | .command cmd =>
      if cmd.type = .setRunningMode then some cmd.intVal else none
  | _ => none

/-- What the events after this one stem from: a command or the control logic. -/
def Event.origin : Event → Option (Option Command)
  | .command cmd => some (some cmd)
  | .control => some none
  | _ => none

/-- The working mode last asked for by a command. -/
def lastModeCommand (history : List Event) : Option Int :=
  history.findSome? Event.modeCommand

/-- What an event that happens after the history stems from. -/
def originAfter (history : List Event) : Option (Option Command) :=
  history.findSome? Event.origin

def writableRegisters : List Address :=
  [regRunningMode, regDhwTarget, regHeatingTarget, regDhwPriority,
    regOccupancyMode]

/-- Off requests admit only writes that another kind of command asks for. -/
def Entitled (history : List Event) : Prop :=
  lastModeCommand history = some 0 →
    ∃ cmd, originAfter history = some (some cmd) ∧
      cmd.type ≠ .setRunningMode

/-- The law of a write, given the events before it. -/
def LawfulWrite (event : Event) (earlier : List Event) : Prop :=
  match event with
  | .write address value _ desired =>
      address ∈ writableRegisters ∧
        (address = regRunningMode →
          value = if desired = 0 then 0 else 2) ∧
        (address ≠ regRunningMode → Entitled earlier)
  | _ => True

/-! ## The invariant -/

variable {Device : Type} {world : World Device}

/-- The history obeys the laws, and the last mode command is in force. -/
structure Disciplined (world : World Device) : Prop where
  lawful : Lawful LawfulWrite world.bus.history
  desired : ∀ mode, lastModeCommand world.bus.history = some mode →
    world.loop.desiredWorkingMode = mode

/-- A disciplined world in which any of the five registers may be written. -/
structure Supervised (world : World Device) : Prop
    extends Disciplined world where
  entitled : Entitled world.bus.history

theorem Disciplined.supervised (disciplined : Disciplined world)
    (notOff : world.loop.desiredWorkingMode ≠ 0) : Supervised world where
  toDisciplined := disciplined
  entitled := by
    intro off
    exact absurd (disciplined.desired 0 off) notOff

theorem Disciplined.updateLoop (disciplined : Disciplined world)
    {update : ControlLoop → ControlLoop}
    (sameMode : ∀ loop,
      (update loop).desiredWorkingMode = loop.desiredWorkingMode) :
    Disciplined (world.updateLoop update) where
  lawful := disciplined.lawful
  desired := by
    intro mode last
    exact (sameMode world.loop).trans (disciplined.desired mode last)

theorem Supervised.updateLoop (supervised : Supervised world)
    {update : ControlLoop → ControlLoop}
    (sameMode : ∀ loop,
      (update loop).desiredWorkingMode = loop.desiredWorkingMode) :
    Supervised (world.updateLoop update) where
  toDisciplined := supervised.toDisciplined.updateLoop sameMode
  entitled := supervised.entitled

theorem Disciplined.fireSettingsCallback
    (disciplined : Disciplined world) :
    Disciplined world.fireSettingsCallback where
  lawful := ⟨trivial, disciplined.lawful⟩
  desired := disciplined.desired

theorem Supervised.fireSettingsCallback (supervised : Supervised world) :
    Supervised world.fireSettingsCallback where
  toDisciplined := supervised.toDisciplined.fireSettingsCallback
  entitled := supervised.entitled

variable (client : IModbusClient Device)

theorem Disciplined.writeRunningMode (disciplined : Disciplined world)
    {value : Word}
    (legal : value =
      if world.loop.desiredWorkingMode = 0 then 0 else 2) :
    Disciplined
      (world.writeRegister client regRunningMode value).2 where
  lawful :=
    ⟨⟨by decide, fun _ => legal, fun different => absurd rfl different⟩,
      disciplined.lawful⟩
  desired := disciplined.desired

theorem Supervised.writeRegister (supervised : Supervised world)
    {address : Address} (value : Word)
    (writable : address ∈ writableRegisters)
    (other : address ≠ regRunningMode) :
    Supervised (world.writeRegister client address value).2 where
  lawful :=
    ⟨⟨writable, fun equal => absurd equal other,
        fun _ => supervised.entitled⟩,
      supervised.lawful⟩
  desired := supervised.desired
  entitled := supervised.entitled

/-! ## The setters keep it -/

theorem Disciplined.setRunningMode (disciplined : Disciplined world)
    {mode : Int}
    (legal : mode = if world.loop.desiredWorkingMode = 0 then 0 else 2) :
    Disciplined (setRunningMode client mode world).2 := by
  have word : BitVec.ofInt 16 mode =
      if world.loop.desiredWorkingMode = 0 then 0 else 2 := by
    rw [legal]
    split <;> rfl
  simp only [Windmi.Core.setRunningMode]
  split_ifs
  · exact disciplined
  · exact disciplined.writeRunningMode client word
  · exact disciplined.writeRunningMode client word

theorem Supervised.setDhwTarget (supervised : Supervised world)
    (temp : ℚ) : Supervised (setDhwTarget client temp world).2 := by
  have written : Supervised
      (world.writeRegister client regDhwTarget (tempToRaw temp)).2 :=
    supervised.writeRegister client _ (by decide) (by decide)
  rw [setDhwTarget_world]
  split_ifs
  · refine Supervised.fireSettingsCallback ?_
    exact written.updateLoop fun _ => rfl
  · exact written

theorem Supervised.setHeatingTarget (supervised : Supervised world)
    (temp : ℚ) : Supervised (setHeatingTarget client temp world).2 := by
  have written : Supervised
      (world.writeRegister client regHeatingTarget (tempToRaw temp)).2 :=
    supervised.writeRegister client _ (by decide) (by decide)
  rw [setHeatingTarget_world]
  split_ifs
  · refine Supervised.fireSettingsCallback ?_
    exact written.updateLoop fun _ => rfl
  · exact written

theorem Supervised.writePriority (supervised : Supervised world)
    (value : Word) (priority : PriorityMode) :
    Supervised (writePriority client value priority world).2 := by
  have written : Supervised
      (world.writeRegister client regDhwPriority value).2 :=
    supervised.writeRegister client _ (by decide) (by decide)
  rw [writePriority_world]
  split_ifs
  · exact written.updateLoop fun _ => rfl
  · exact written

theorem Supervised.overrideTargets (supervised : Supervised world)
    (mode : Int) : Supervised (overrideTargets client mode world) := by
  unfold Windmi.Core.overrideTargets
  split
  · have heating := supervised.setHeatingTarget client heatingTargetMin
    exact heating.writePriority client _ _
  · have dhw := supervised.setDhwTarget client dhwTargetMin
    exact dhw.writePriority client _ _
  · have dhw := supervised.setDhwTarget client world.loop.savedDhwTarget
    exact (dhw.setHeatingTarget client _).writePriority client _ _
  · exact supervised

/-! ## Commands keep it -/

/-- Popping a command of another kind entitles to the writes it asks for. -/
theorem Disciplined.popOther (disciplined : Disciplined world)
    {cmd : Command} (other : cmd.type ≠ .setRunningMode) :
    Supervised (world.emit (.command cmd)) where
  lawful := ⟨trivial, disciplined.lawful⟩
  desired := by
    intro mode last
    refine disciplined.desired mode ?_
    simpa [World.emit, lastModeCommand, Event.modeCommand, other]
      using last
  entitled := fun _ => ⟨cmd, rfl, other⟩

theorem Supervised.processSetPriority (supervised : Supervised world)
    (value : Int) :
    Supervised (processSetPriority client value world) := by
  have written : ∀ priority, Supervised
      (Windmi.Core.writePriority client (BitVec.ofInt 16 value) priority
        world).2 :=
    fun priority => supervised.writePriority client _ priority
  simp only [Windmi.Core.processSetPriority]
  by_cases accepted :
      (Windmi.Core.writePriority client (BitVec.ofInt 16 value)
        (if value = 1 then .dhw else .heating) world).1
  · rw [if_pos accepted]
    exact (written _).fireSettingsCallback
  · rw [if_neg accepted]
    exact written _

/-- Under Off nothing is overridden, and otherwise any target may be. -/
theorem Disciplined.overrideTargets (disciplined : Disciplined world)
    {mode : Int} (inForce : world.loop.desiredWorkingMode = mode) :
    Disciplined (overrideTargets client mode world) := by
  by_cases off : mode = 0
  · rw [off]
    exact disciplined
  · have supervised := disciplined.supervised (by rwa [inForce])
    exact (supervised.overrideTargets client mode).toDisciplined

theorem Disciplined.processSetRunningMode
    (disciplined : Disciplined world) {cmd : Command}
    (isMode : cmd.type = .setRunningMode) :
    Disciplined
      (processSetRunningMode client cmd.intVal
        (world.emit (.command cmd))) := by
  have commanded : Disciplined
      ((world.emit (.command cmd)).updateLoop fun loop =>
        { loop with
          desiredWorkingMode := cmd.intVal }).fireSettingsCallback := by
    refine Disciplined.fireSettingsCallback
      ⟨⟨trivial, disciplined.lawful⟩, ?_⟩
    intro mode last
    have equal : cmd.intVal = mode := by
      simpa [World.updateLoop, World.emit, lastModeCommand,
        Event.modeCommand, isMode] using last
    exact equal
  have written := commanded.setRunningMode client
    (targetDeviceMode_eq cmd.intVal)
  simp only [Windmi.Core.processSetRunningMode]
  split_ifs
  · refine Disciplined.overrideTargets client ?_ ?_
    · exact written.updateLoop fun _ => rfl
    · have sameLoop := setRunningMode_loop client
        ((world.emit (.command cmd)).updateLoop fun loop =>
          { loop with
            desiredWorkingMode := cmd.intVal }).fireSettingsCallback
        (targetDeviceMode cmd.intVal)
      exact congrArg ControlLoop.desiredWorkingMode sameLoop
  · exact written

theorem Disciplined.processCommand (disciplined : Disciplined world)
    (cmd : Command) : Disciplined (processCommand client cmd world) := by
  unfold Windmi.Core.processCommand
  cases kind : cmd.type with
  | setRunningMode => exact disciplined.processSetRunningMode client kind
  | setDhwTemp =>
      have popped : Supervised (world.emit (.command cmd)) :=
        disciplined.popOther (by simp [kind])
      have written := popped.setDhwTarget client cmd.floatVal
      refine (?_ : Supervised _).toDisciplined
      exact written.updateLoop fun _ => rfl
  | setHeatingTemp =>
      have popped : Supervised (world.emit (.command cmd)) :=
        disciplined.popOther (by simp [kind])
      have written := popped.setHeatingTarget client cmd.floatVal
      refine (?_ : Supervised _).toDisciplined
      exact written.updateLoop fun _ => rfl
  | setPriority =>
      have popped : Supervised (world.emit (.command cmd)) :=
        disciplined.popOther (by simp [kind])
      exact (popped.processSetPriority client cmd.intVal).toDisciplined
  | setOccupancyMode =>
      have popped : Supervised (world.emit (.command cmd)) :=
        disciplined.popOther (by simp [kind])
      refine (?_ : Supervised _).toDisciplined
      exact popped.writeRegister client _ (by decide) (by decide)

theorem Disciplined.processCommands (disciplined : Disciplined world)
    (batch : List Command) :
    Disciplined (processCommands client batch world) :=
  List.foldlRecOn batch _ disciplined
    fun _ previous cmd _ => previous.processCommand client cmd

/-! ## Polls and control logic keep it -/

theorem lastModeCommand_append {newer history : List Event}
    (silent : ∀ event ∈ newer, event.modeCommand = none) :
    lastModeCommand (newer ++ history) = lastModeCommand history := by
  unfold lastModeCommand
  rw [List.findSome?_append, List.findSome?_eq_none_iff.mpr silent]
  rfl

/-- A poll only reads, and it never touches the desired mode. -/
theorem Disciplined.readStatus (disciplined : Disciplined world)
    (status : StatusSnapshot) :
    Disciplined (readStatus client status world).world := by
  let outcome := (pollReads client world.bus.device).1
  rw [readStatus_spec]
  constructor
  · refine disciplined.lawful.append ?_
    intro event member earlier
    rcases mem_readEvents member with ⟨address, -, rfl⟩
    trivial
  · intro mode last
    have silent : ∀ event ∈ readEvents outcome polledRegisters,
        event.modeCommand = none := by
      intro event member
      rcases mem_readEvents member with ⟨address, -, rfl⟩
      rfl
    refine (observe_desiredWorkingMode outcome world.loop).trans ?_
    refine disciplined.desired mode ?_
    rw [← lastModeCommand_append silent]
    exact last

/-- The control logic issues no command, so its entry entitles to nothing. -/
theorem Disciplined.enterControl (disciplined : Disciplined world) :
    Disciplined (world.emit .control) where
  lawful := ⟨trivial, disciplined.lawful⟩
  desired := disciplined.desired

theorem Disciplined.correctDeviceMode (disciplined : Disciplined world) :
    Disciplined (correctDeviceMode client world) := by
  have written := disciplined.setRunningMode client
    (desiredDeviceMode_eq world.loop.desiredWorkingMode)
  simp only [Windmi.Core.correctDeviceMode]
  split_ifs
  · exact written.updateLoop fun _ => rfl
  · exact written
  · exact disciplined

theorem Supervised.restoreDhwTarget (supervised : Supervised world)
    (status : StatusSnapshot) :
    Supervised (restoreDhwTarget client status world) := by
  unfold Windmi.Core.restoreDhwTarget
  split_ifs
  · exact supervised.setDhwTarget client _
  · exact supervised

theorem Supervised.restoreHeatingTarget (supervised : Supervised world)
    (status : StatusSnapshot) :
    Supervised (restoreHeatingTarget client status world) := by
  unfold Windmi.Core.restoreHeatingTarget
  split_ifs
  · exact supervised.setHeatingTarget client _
  · exact supervised

/-- The enforcement of targets acts in the modes 1, 2 and 3 only. -/
theorem Disciplined.enforceTargets (disciplined : Disciplined world)
    (status : StatusSnapshot) :
    Disciplined (enforceTargets client status world) := by
  by_cases off : world.loop.desiredWorkingMode = 0
  · simpa only [Windmi.Core.enforceTargets, off] using disciplined
  · have supervised := disciplined.supervised off
    unfold Windmi.Core.enforceTargets
    split
    · split_ifs
      · exact (supervised.setHeatingTarget client _).toDisciplined
      · exact disciplined
    · split_ifs
      · exact (supervised.setDhwTarget client _).toDisciplined
      · exact disciplined
    · have dhw := supervised.restoreDhwTarget client status
      exact (dhw.restoreHeatingTarget client status).toDisciplined
    · exact disciplined

theorem Disciplined.enforcePriority (disciplined : Disciplined world) :
    Disciplined (enforcePriority client world) := by
  by_cases off : world.loop.desiredWorkingMode = 0
  · simpa only [Windmi.Core.enforcePriority, off] using disciplined
  · have supervised := disciplined.supervised off
    unfold Windmi.Core.enforcePriority
    split
    · split_ifs
      · exact (supervised.writePriority client _ _).toDisciplined
      · exact disciplined
    · split_ifs
      · exact (supervised.writePriority client _ _).toDisciplined
      · exact disciplined
    · split_ifs
      · exact (supervised.writePriority client _ _).toDisciplined
      · exact disciplined
    · exact disciplined

theorem Disciplined.applyControlLogic (disciplined : Disciplined world)
    (status : StatusSnapshot) :
    Disciplined (applyControlLogic client status world) := by
  have entered := disciplined.enterControl
  have corrected := entered.correctDeviceMode client
  have targets := corrected.enforceTargets client status
  exact targets.enforcePriority client

theorem Disciplined.publish (disciplined : Disciplined world)
    (status : StatusSnapshot) :
    Disciplined (world.emit (.publish status)) where
  lawful := ⟨trivial, disciplined.lawful⟩
  desired := disciplined.desired

/-! ## Whole runs keep it -/

theorem Disciplined.iteration (disciplined : Disciplined world)
    (batch : List Command) :
    Disciplined (iteration client batch world) := by
  have processed := disciplined.processCommands client batch
  have polled := processed.readStatus client {}
  simp only [Windmi.Core.iteration, concludeIteration]
  split_ifs
  · exact (polled.applyControlLogic client _).publish _
  · exact polled.publish _

theorem Disciplined.publishInitialStatus
    (disciplined : Disciplined world) :
    Disciplined (publishInitialStatus client world) := by
  have polled := disciplined.readStatus client {}
  simp only [Windmi.Core.publishInitialStatus]
  split_ifs
  · exact polled.publish _
  · exact polled

theorem Disciplined.setDevice (disciplined : Disciplined world)
    (device : Device) : Disciplined (world.setDevice device) where
  lawful := disciplined.lawful
  desired := disciplined.desired

theorem threadRun_disciplined (loop : ControlLoop) (device : Device)
    (batches : List (List Command)) :
    Disciplined (threadRun client loop device batches) := by
  have start : Disciplined
      (World.mk loop (Bus.mk device [])) :=
    ⟨lawful_nil LawfulWrite, by intro mode last; cases last⟩
  exact runLoop_induction
    (fun device _ reached => reached.setDevice device)
    (fun _ reached batch _ => reached.iteration client batch)
    (start.publishInitialStatus client)

/--
In every run, each write to `REG_RUNNING_MODE` carries 0 exactly under an Off
request and 2 otherwise, only the five writable registers are ever written,
and while the last mode command asks for Off every write to another register
stems from a setpoint, priority or occupancy command.
-/
theorem threadRun_writes_lawful (workingMode : Int) (priority : String)
    (dhwTarget heatingTarget : ℚ) (device : Device)
    (batches : List (List Command)) :
    let loop := ControlLoop.setInitialSettings {} workingMode priority
      dhwTarget heatingTarget
    ∀ newer address value accepted desired earlier,
      (threadRun client loop device batches).bus.history =
          newer ++ .write address value accepted desired :: earlier →
        address ∈ writableRegisters ∧
          (address = regRunningMode →
            value = if desired = 0 then 0 else 2) ∧
          (address ≠ regRunningMode →
            lastModeCommand earlier = some 0 →
              ∃ cmd, originAfter earlier = some (some cmd) ∧
                cmd.type ≠ .setRunningMode) := by
  intro loop newer address value accepted desired earlier split
  have disciplined := threadRun_disciplined client loop device batches
  exact lawful_iff.mp disciplined.lawful newer _ earlier split

end Windmi.Core
