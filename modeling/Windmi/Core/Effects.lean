import Windmi.Core.Iteration
import Windmi.Core.PollSpec

/-!
# What each operation may change in the control state

The modifies clauses of the loop: over any client, whatever fails, each
operation changes only the members which its equation names, and adds only
events of certain kinds to the history.
-/

namespace Windmi.Core

open Windmi.Modbus

/-! ## The two switch tables agree on every integer -/

theorem targetDeviceMode_eq (mode : Int) :
    targetDeviceMode mode = if mode = 0 then 0 else 2 := by
  unfold targetDeviceMode
  split <;> simp_all [modeSetOff, modeSetHeatDhw]

theorem desiredDeviceMode_eq (mode : Int) :
    desiredDeviceMode mode = if mode = 0 then 0 else 2 := by
  unfold desiredDeviceMode
  split <;> simp_all [modeSetOff, modeSetHeatDhw]

variable {Device : Type} (client : IModbusClient Device)
  (world : World Device)

/-! ## Writers and commands -/

theorem setRunningMode_loop (mode : Int) :
    (setRunningMode client mode world).2.loop = world.loop := by
  simp only [setRunningMode]
  split_ifs <;> rfl

theorem setDhwTarget_loop (temp : ℚ) :
    ∃ dhw,
      (setDhwTarget client temp world).2.loop =
        { world.loop with mDhwTarget := dhw } := by
  rw [setDhwTarget_world]
  split_ifs
  · exact ⟨temp, rfl⟩
  · exact ⟨world.loop.mDhwTarget, rfl⟩

theorem setHeatingTarget_loop (temp : ℚ) :
    ∃ heating,
      (setHeatingTarget client temp world).2.loop =
        { world.loop with mHeatingTarget := heating } := by
  rw [setHeatingTarget_world]
  split_ifs
  · exact ⟨temp, rfl⟩
  · exact ⟨world.loop.mHeatingTarget, rfl⟩

theorem writePriority_loop (value : Word) (priority : PriorityMode) :
    ∃ current,
      (writePriority client value priority world).2.loop =
        { world.loop with currentPriority := current } := by
  rw [writePriority_world]
  split_ifs
  · exact ⟨priority, rfl⟩
  · exact ⟨world.loop.currentPriority, rfl⟩

theorem overrideTargets_loop (workingMode : Int) :
    ∃ dhw heating priority,
      (overrideTargets client workingMode world).loop =
        { world.loop with
          mDhwTarget := dhw
          mHeatingTarget := heating
          currentPriority := priority } := by
  unfold overrideTargets
  split
  · rcases setHeatingTarget_loop client world heatingTargetMin with
      ⟨heating, first⟩
    rcases writePriority_loop client
      (setHeatingTarget client heatingTargetMin world).2 1 .dhw with
      ⟨priority, second⟩
    refine ⟨world.loop.mDhwTarget, heating, priority, ?_⟩
    dsimp only
    rw [second, first]
  · rcases setDhwTarget_loop client world dhwTargetMin with ⟨dhw, first⟩
    rcases writePriority_loop client
      (setDhwTarget client dhwTargetMin world).2 0 .heating with
      ⟨priority, second⟩
    refine ⟨dhw, world.loop.mHeatingTarget, priority, ?_⟩
    dsimp only
    rw [second, first]
  · let restored := (setDhwTarget client world.loop.savedDhwTarget world).2
    rcases setDhwTarget_loop client world world.loop.savedDhwTarget with
      ⟨dhw, first⟩
    rcases setHeatingTarget_loop client restored
      restored.loop.savedHeatingTarget with
      ⟨heating, second⟩
    rcases writePriority_loop client
      (setHeatingTarget client restored.loop.savedHeatingTarget restored).2
      1 .dhw with
      ⟨priority, third⟩
    refine ⟨dhw, heating, priority, ?_⟩
    dsimp only
    rw [third, second, first]
  · exact ⟨world.loop.mDhwTarget, world.loop.mHeatingTarget,
      world.loop.currentPriority, rfl⟩

theorem processSetPriority_loop (value : Int) :
    ∃ priority,
      (processSetPriority client value world).loop =
        { world.loop with currentPriority := priority } := by
  rcases writePriority_loop client world
    (BitVec.ofInt 16 value) (if value = 1 then .dhw else .heating) with
    ⟨priority, equal⟩
  refine ⟨priority, ?_⟩
  rw [← equal]
  exact apply_ite World.loop .. |>.trans (ite_self _)

theorem processSetRunningMode_loop (workingMode : Int) :
    ∃ current dhw heating priority,
      (processSetRunningMode client workingMode world).loop =
        { world.loop with
          desiredWorkingMode := workingMode
          currentMode := current
          mDhwTarget := dhw
          mHeatingTarget := heating
          currentPriority := priority } := by
  let commanded :=
    (world.updateLoop fun loop =>
      { loop with desiredWorkingMode := workingMode }).fireSettingsCallback
  have written := setRunningMode_loop client commanded
    (targetDeviceMode workingMode)
  simp only [processSetRunningMode]
  split_ifs
  · rcases overrideTargets_loop client
        ((setRunningMode client (targetDeviceMode workingMode)
          commanded).2.updateLoop fun loop =>
            { loop with currentMode := targetDeviceMode workingMode })
        workingMode with
      ⟨dhw, heating, priority, overridden⟩
    refine ⟨targetDeviceMode workingMode, dhw, heating, priority, ?_⟩
    refine overridden.trans ?_
    simp only [World.updateLoop, written]
    rfl
  · exact ⟨world.loop.currentMode, world.loop.mDhwTarget,
      world.loop.mHeatingTarget, world.loop.currentPriority, written⟩

/--
What a command makes of the control state: a mode command sets the desired
mode, and the setpoint commands are the only ones that save a target.
-/
theorem processCommand_loop (cmd : Command) :
    ∃ current dhw heating priority,
      (processCommand client cmd world).loop =
        { world.loop with
          currentMode := current
          mDhwTarget := dhw
          mHeatingTarget := heating
          currentPriority := priority
          desiredWorkingMode :=
            if cmd.type = .setRunningMode then cmd.intVal
            else world.loop.desiredWorkingMode
          savedDhwTarget :=
            if cmd.type = .setDhwTemp then cmd.floatVal
            else world.loop.savedDhwTarget
          lastHeatingTarget :=
            if cmd.type = .setHeatingTemp then cmd.floatVal
            else world.loop.lastHeatingTarget
          savedHeatingTarget :=
            if cmd.type = .setHeatingTemp then cmd.floatVal
            else world.loop.savedHeatingTarget } := by
  unfold processCommand
  cases cmd.type with
  | setDhwTemp =>
      rcases setDhwTarget_loop client
        (world.emit (.command cmd)) cmd.floatVal with
        ⟨dhw, equal⟩
      simp only [processSetDhwTemp, World.updateLoop, equal]
      exact ⟨_, _, _, _, rfl⟩
  | setHeatingTemp =>
      rcases setHeatingTarget_loop client
        (world.emit (.command cmd)) cmd.floatVal with
        ⟨heating, equal⟩
      simp only [processSetHeatingTemp, World.updateLoop, equal]
      exact ⟨_, _, _, _, rfl⟩
  | setPriority =>
      rcases processSetPriority_loop client
        (world.emit (.command cmd)) cmd.intVal with
        ⟨priority, equal⟩
      exact ⟨_, _, _, priority, equal⟩
  | setOccupancyMode => exact ⟨_, _, _, _, rfl⟩
  | setRunningMode =>
      rcases processSetRunningMode_loop client (world.emit (.command cmd))
          cmd.intVal with
        ⟨current, dhw, heating, priority, equal⟩
      exact ⟨current, dhw, heating, priority, equal⟩

theorem processCommand_saved (cmd : Command) :
    (processCommand client cmd world).loop.savedDhwTarget =
        (if cmd.type = .setDhwTemp then cmd.floatVal
          else world.loop.savedDhwTarget) ∧
      (processCommand client cmd world).loop.savedHeatingTarget =
        (if cmd.type = .setHeatingTemp then cmd.floatVal
          else world.loop.savedHeatingTarget) ∧
      (processCommand client cmd world).loop.savedTargetsInitialized =
        world.loop.savedTargetsInitialized := by
  rcases processCommand_loop client world cmd with
    ⟨current, dhw, heating, priority, equal⟩
  rw [equal]
  exact ⟨rfl, rfl, rfl⟩

theorem processCommand_desired (cmd : Command) :
    (processCommand client cmd world).loop.desiredWorkingMode =
      if cmd.type = .setRunningMode then cmd.intVal
      else world.loop.desiredWorkingMode := by
  rcases processCommand_loop client world cmd with
    ⟨current, dhw, heating, priority, equal⟩
  rw [equal]

theorem processCommand_lastHeatingTarget (cmd : Command) :
    (processCommand client cmd world).loop.lastHeatingTarget =
      if cmd.type = .setHeatingTemp then cmd.floatVal
      else world.loop.lastHeatingTarget := by
  rcases processCommand_loop client world cmd with
    ⟨current, dhw, heating, priority, equal⟩
  rw [equal]

/-! ## Control logic -/

theorem correctDeviceMode_loop :
    ∃ current,
      (correctDeviceMode client world).loop =
        { world.loop with currentMode := current } := by
  let mode := desiredDeviceMode world.loop.desiredWorkingMode
  have written := setRunningMode_loop client world mode
  simp only [correctDeviceMode]
  split_ifs
  · refine ⟨mode, ?_⟩
    simp only [World.updateLoop]
    rw [written]
  · exact ⟨world.loop.currentMode, written⟩
  · exact ⟨world.loop.currentMode, rfl⟩

theorem restoreDhwTarget_loop (status : StatusSnapshot) :
    ∃ dhw,
      (restoreDhwTarget client status world).loop =
        { world.loop with mDhwTarget := dhw } := by
  unfold restoreDhwTarget
  split_ifs
  · exact setDhwTarget_loop client world _
  · exact ⟨world.loop.mDhwTarget, rfl⟩

theorem restoreHeatingTarget_loop (status : StatusSnapshot) :
    ∃ heating,
      (restoreHeatingTarget client status world).loop =
        { world.loop with mHeatingTarget := heating } := by
  unfold restoreHeatingTarget
  split_ifs
  · exact setHeatingTarget_loop client world _
  · exact ⟨world.loop.mHeatingTarget, rfl⟩

/-- Enforcing the targets changes only what the settings file will say. -/
theorem enforceTargets_loop (status : StatusSnapshot) :
    ∃ dhw heating,
      (enforceTargets client status world).loop =
        { world.loop with mDhwTarget := dhw, mHeatingTarget := heating } := by
  have same : ∃ dhw heating, world.loop =
      { world.loop with mDhwTarget := dhw, mHeatingTarget := heating } :=
    ⟨world.loop.mDhwTarget, world.loop.mHeatingTarget, rfl⟩
  unfold enforceTargets
  split
  · split_ifs
    · rcases setHeatingTarget_loop client world heatingTargetMin with
        ⟨heating, equal⟩
      exact ⟨world.loop.mDhwTarget, heating, equal⟩
    · exact same
  · split_ifs
    · rcases setDhwTarget_loop client world dhwTargetMin with ⟨dhw, equal⟩
      exact ⟨dhw, world.loop.mHeatingTarget, equal⟩
    · exact same
  · rcases restoreDhwTarget_loop client world status with ⟨dhw, first⟩
    rcases restoreHeatingTarget_loop client
      (restoreDhwTarget client status world) status with
      ⟨heating, second⟩
    refine ⟨dhw, heating, ?_⟩
    rw [second, first]
  · exact same

theorem enforcePriority_loop :
    ∃ priority,
      (enforcePriority client world).loop =
        { world.loop with currentPriority := priority } := by
  unfold enforcePriority
  split
  · split_ifs
    · exact writePriority_loop client world 1 .dhw
    · exact ⟨world.loop.currentPriority, rfl⟩
  · split_ifs
    · exact writePriority_loop client world 1 .dhw
    · exact ⟨world.loop.currentPriority, rfl⟩
  · split_ifs
    · exact writePriority_loop client world 0 .heating
    · exact ⟨world.loop.currentPriority, rfl⟩
  · exact ⟨world.loop.currentPriority, rfl⟩

/-- The control logic never touches the saved targets. -/
theorem applyControlLogic_loop (status : StatusSnapshot) :
    ∃ current dhw heating priority,
      (applyControlLogic client status world).loop =
        { world.loop with
          currentMode := current
          mDhwTarget := dhw
          mHeatingTarget := heating
          currentPriority := priority } := by
  let corrected := correctDeviceMode client (world.emit .control)
  let targets := enforceTargets client status corrected
  rcases correctDeviceMode_loop client (world.emit .control) with
    ⟨current, first⟩
  rcases enforceTargets_loop client corrected status with
    ⟨dhw, heating, second⟩
  rcases enforcePriority_loop client targets with ⟨priority, third⟩
  refine ⟨current, dhw, heating, priority, ?_⟩
  refine third.trans ?_
  rw [second, first]
  rfl

/-- Only commands change the desired mode. -/
theorem iteration_desired (batch : List Command) :
    (iteration client batch world).loop.desiredWorkingMode =
      (processCommands client batch world).loop.desiredWorkingMode := by
  let processed := processCommands client batch world
  let poll := readStatus client {} processed
  have polled := readStatus_desired client {} processed
  unfold iteration concludeIteration
  split
  · rcases applyControlLogic_loop client poll.world poll.status with
      ⟨current, dhw, heating, priority, equal⟩
    exact (congrArg ControlLoop.desiredWorkingMode equal).trans polled
  · exact polled

theorem publishInitialStatus_desired :
    (publishInitialStatus client world).loop.desiredWorkingMode =
      world.loop.desiredWorkingMode := by
  simp only [publishInitialStatus]
  split <;> exact readStatus_desired client {} world

/-! ## Events -/

/-- The later history extends the earlier one by allowed events. -/
def Adds (allowed : Event → Prop) (earlier later : World Device) : Prop :=
  ∃ newer, later.bus.history = newer ++ earlier.bus.history ∧
    ∀ event ∈ newer, allowed event

section

variable {allowed : Event → Prop} {first second third : World Device}

theorem Adds.refl (world : World Device) : Adds allowed world world :=
  ⟨[], rfl, by simp⟩

theorem Adds.trans (before : Adds allowed first second)
    (after : Adds allowed second third) : Adds allowed first third := by
  rcases before with ⟨newer, newerEqual, newerAllowed⟩
  rcases after with ⟨newest, newestEqual, newestAllowed⟩
  refine ⟨newest ++ newer, ?_, ?_⟩
  · rw [newestEqual, newerEqual, List.append_assoc]
  · intro event member
    rcases List.mem_append.mp member with inside | inside
    · exact newestAllowed event inside
    · exact newerAllowed event inside

theorem Adds.mono {wider : Event → Prop} (adds : Adds allowed first second)
    (implies : ∀ event, allowed event → wider event) :
    Adds wider first second := by
  rcases adds with ⟨newer, equal, all⟩
  exact ⟨newer, equal, fun event member => implies event (all event member)⟩

theorem Adds.emit (adds : Adds allowed first second) {event : Event}
    (holds : allowed event) : Adds allowed first (second.emit event) :=
  adds.trans ⟨[event], rfl, by simpa using holds⟩

/-- What the new events do not contain is found in the history as before. -/
theorem Adds.filterMap_eq {α : Type} {field : Event → Option α}
    (adds : Adds allowed first second)
    (silent : ∀ event, allowed event → field event = none) :
    second.bus.history.filterMap field =
      first.bus.history.filterMap field := by
  rcases adds with ⟨newer, equal, all⟩
  have nothing : newer.filterMap field = [] := by
    rw [List.filterMap_eq_nil_iff]
    exact fun event member => silent event (all event member)
  rw [equal, List.filterMap_append, nothing, List.nil_append]

end

/-- The events by which the loop acts on its surroundings. -/
def Event.IsAction : Event → Prop
  | .write .. => True
  | .settings .. => True
  | _ => False

theorem writeRegister_adds (address : Address) (value : Word) :
    Adds Event.IsAction world
      (world.writeRegister client address value).2 :=
  ⟨[.write address value _ _], rfl, by simp [Event.IsAction]⟩

theorem setRunningMode_adds (mode : Int) :
    Adds Event.IsAction world (setRunningMode client mode world).2 := by
  simp only [setRunningMode]
  split_ifs
  · exact Adds.refl world
  · exact writeRegister_adds client world _ _
  · exact writeRegister_adds client world _ _

theorem setDhwTarget_adds (temp : ℚ) :
    Adds Event.IsAction world (setDhwTarget client temp world).2 := by
  have written := writeRegister_adds client world regDhwTarget
    (tempToRaw temp)
  rw [setDhwTarget_world]
  split_ifs
  · exact written.emit trivial
  · exact written

theorem setHeatingTarget_adds (temp : ℚ) :
    Adds Event.IsAction world (setHeatingTarget client temp world).2 := by
  have written := writeRegister_adds client world regHeatingTarget
    (tempToRaw temp)
  rw [setHeatingTarget_world]
  split_ifs
  · exact written.emit trivial
  · exact written

theorem writePriority_adds (value : Word) (priority : PriorityMode) :
    Adds Event.IsAction world
      (writePriority client value priority world).2 := by
  have written := writeRegister_adds client world regDhwPriority value
  rw [writePriority_world]
  split_ifs
  · exact written
  · exact written

theorem overrideTargets_adds (workingMode : Int) :
    Adds Event.IsAction world
      (overrideTargets client workingMode world) := by
  unfold overrideTargets
  split
  · exact (setHeatingTarget_adds client world _).trans
      (writePriority_adds client _ _ _)
  · exact (setDhwTarget_adds client world _).trans
      (writePriority_adds client _ _ _)
  · exact ((setDhwTarget_adds client world _).trans
      (setHeatingTarget_adds client _ _)).trans
        (writePriority_adds client _ _ _)
  · exact Adds.refl world

theorem processSetPriority_adds (value : Int) :
    Adds Event.IsAction world (processSetPriority client value world) := by
  have written := writePriority_adds client world (BitVec.ofInt 16 value)
    (if value = 1 then .dhw else .heating)
  unfold processSetPriority
  generalize writePriority client (BitVec.ofInt 16 value)
    (if value = 1 then .dhw else .heating) world = attempt at written ⊢
  dsimp only
  split_ifs
  · exact written.emit trivial
  · exact written

theorem processSetRunningMode_adds (workingMode : Int) :
    Adds Event.IsAction world
      (processSetRunningMode client workingMode world) := by
  let commanded :=
    (world.updateLoop fun loop =>
      { loop with desiredWorkingMode := workingMode }).fireSettingsCallback
  have called : Adds Event.IsAction world commanded :=
    (Adds.refl world).emit trivial
  have written := called.trans
    (setRunningMode_adds client commanded (targetDeviceMode workingMode))
  simp only [processSetRunningMode]
  split_ifs
  · exact written.trans (overrideTargets_adds client _ workingMode)
  · exact written

/-- Events of the processing of commands. -/
def Event.OfCommands (event : Event) : Prop :=
  event.IsAction ∨ ∃ cmd, event = .command cmd

/-- Once popped, a command only leads to actions. -/
theorem processCommand_actions (cmd : Command) :
    Adds Event.IsAction (world.emit (.command cmd))
      (processCommand client cmd world) := by
  unfold processCommand
  cases cmd.type with
  | setDhwTemp => exact setDhwTarget_adds client _ _
  | setHeatingTemp => exact setHeatingTarget_adds client _ _
  | setPriority => exact processSetPriority_adds client _ _
  | setOccupancyMode => exact writeRegister_adds client _ _ _
  | setRunningMode => exact processSetRunningMode_adds client _ _

theorem processCommand_adds (cmd : Command) :
    Adds Event.OfCommands world (processCommand client cmd world) := by
  have popped : Adds Event.OfCommands world
      (world.emit (.command cmd)) :=
    (Adds.refl world).emit (Or.inr ⟨cmd, rfl⟩)
  exact popped.trans
    ((processCommand_actions client world cmd).mono fun _ => Or.inl)

theorem processCommands_adds (batch : List Command) :
    Adds Event.OfCommands world (processCommands client batch world) :=
  List.foldlRecOn batch _ (Adds.refl world)
    fun _ previous cmd _ => previous.trans (processCommand_adds client _ cmd)

theorem readStatus_adds (status : StatusSnapshot) :
    Adds (fun event => ∃ address outcome, event = .read address outcome)
      world (readStatus client status world).world := by
  rw [readStatus_spec]
  refine ⟨_, rfl, ?_⟩
  intro event member
  rcases mem_readEvents member with ⟨address, -, equal⟩
  exact ⟨address, _, equal⟩

theorem correctDeviceMode_adds :
    Adds Event.IsAction world (correctDeviceMode client world) := by
  have written := setRunningMode_adds client world
    (desiredDeviceMode world.loop.desiredWorkingMode)
  simp only [correctDeviceMode]
  split_ifs
  · exact written
  · exact written
  · exact Adds.refl world

theorem restoreDhwTarget_adds (status : StatusSnapshot) :
    Adds Event.IsAction world (restoreDhwTarget client status world) := by
  unfold restoreDhwTarget
  split_ifs
  · exact setDhwTarget_adds client world _
  · exact Adds.refl world

theorem restoreHeatingTarget_adds (status : StatusSnapshot) :
    Adds Event.IsAction world
      (restoreHeatingTarget client status world) := by
  unfold restoreHeatingTarget
  split_ifs
  · exact setHeatingTarget_adds client world _
  · exact Adds.refl world

theorem enforceTargets_adds (status : StatusSnapshot) :
    Adds Event.IsAction world (enforceTargets client status world) := by
  unfold enforceTargets
  split
  · split_ifs
    · exact setHeatingTarget_adds client world _
    · exact Adds.refl world
  · split_ifs
    · exact setDhwTarget_adds client world _
    · exact Adds.refl world
  · exact (restoreDhwTarget_adds client world status).trans
      (restoreHeatingTarget_adds client _ status)
  · exact Adds.refl world

theorem enforcePriority_adds :
    Adds Event.IsAction world (enforcePriority client world) := by
  unfold enforcePriority
  split
  all_goals
    first
    | exact Adds.refl world
    | split_ifs
      · exact writePriority_adds client world _ _
      · exact Adds.refl world

/-- Once entered, the control logic only acts. -/
theorem applyControlLogic_actions (status : StatusSnapshot) :
    Adds Event.IsAction (world.emit .control)
      (applyControlLogic client status world) := by
  let corrected := correctDeviceMode client (world.emit .control)
  let targets := enforceTargets client status corrected
  exact ((correctDeviceMode_adds client (world.emit .control)).trans
    (enforceTargets_adds client corrected status)).trans
      (enforcePriority_adds client targets)

/-- Events of the control logic. -/
def Event.OfControl (event : Event) : Prop :=
  event.IsAction ∨ event = .control

theorem applyControlLogic_adds (status : StatusSnapshot) :
    Adds Event.OfControl world
      (applyControlLogic client status world) := by
  have entered : Adds Event.OfControl world (world.emit .control) :=
    (Adds.refl world).emit (Or.inr rfl)
  exact entered.trans
    ((applyControlLogic_actions client world status).mono fun _ => Or.inl)

/-! ## Published flags -/

def Event.onlineFlag : Event → Option Bool
  | .publish status => some status.deviceOnline
  | _ => none

/-- The `device_online` flags which were published, newest first. -/
def onlineFlags (history : List Event) : List Bool :=
  history.filterMap Event.onlineFlag

theorem Event.IsAction.onlineFlag {event : Event}
    (action : event.IsAction) : event.onlineFlag = none := by
  cases event with
  | publish status => exact action.elim
  | _ => rfl

theorem processCommands_onlineFlags (batch : List Command) :
    onlineFlags (processCommands client batch world).bus.history =
      onlineFlags world.bus.history := by
  refine (processCommands_adds client world batch).filterMap_eq ?_
  rintro event (action | ⟨cmd, rfl⟩)
  · exact action.onlineFlag
  · rfl

theorem readStatus_onlineFlags (status : StatusSnapshot) :
    onlineFlags (readStatus client status world).world.bus.history =
      onlineFlags world.bus.history := by
  refine (readStatus_adds client world status).filterMap_eq ?_
  rintro event ⟨address, outcome, rfl⟩
  rfl

theorem applyControlLogic_onlineFlags (status : StatusSnapshot) :
    onlineFlags (applyControlLogic client status world).bus.history =
      onlineFlags world.bus.history := by
  refine (applyControlLogic_adds client world status).filterMap_eq ?_
  rintro event (action | rfl)
  · exact action.onlineFlag
  · rfl

/-- A poll reports the device online exactly if it succeeds. -/
theorem readStatus_deviceOnline (status : StatusSnapshot) :
    (readStatus client status world).status.deviceOnline =
      (readStatus client status world).ok := by
  rw [readStatus_spec]
  exact pollFrame_deviceOnline _ _ _

/-- Each iteration publishes one flag, the success of its poll. -/
theorem iteration_onlineFlags (batch : List Command) :
    onlineFlags (iteration client batch world).bus.history =
      (readStatus client {} (processCommands client batch world)).ok ::
        onlineFlags world.bus.history := by
  have online := readStatus_deviceOnline client
    (processCommands client batch world) {}
  have before := readStatus_onlineFlags client
    (processCommands client batch world) {}
  rw [processCommands_onlineFlags] at before
  unfold iteration concludeIteration
  generalize readStatus client {} (processCommands client batch world) =
    poll at online before ⊢
  split_ifs with ok
  · have controlled :=
      applyControlLogic_onlineFlags client poll.world poll.status
    change poll.status.deviceOnline ::
      onlineFlags (applyControlLogic client poll.status
        poll.world).bus.history = _
    rw [controlled, before, online]
  · change false :: onlineFlags poll.world.bus.history = _
    rw [before, Bool.eq_false_iff.mpr ok]

theorem iterations_onlineFlags (batches : List (List Command)) :
    ∃ flags, flags.length = batches.length ∧
      onlineFlags (iterations client batches world).bus.history =
        flags ++ onlineFlags world.bus.history := by
  induction batches generalizing world with
  | nil => exact ⟨[], rfl, rfl⟩
  | cons batch batches ih =>
      rcases ih (iteration client batch world) with ⟨flags, count, equal⟩
      rw [iteration_onlineFlags] at equal
      refine ⟨flags ++
        [(readStatus client {} (processCommands client batch world)).ok],
        by simp [count], ?_⟩
      rw [List.append_assoc]
      exact equal

end Windmi.Core
