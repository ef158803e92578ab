import Windmi.Core.FailureFree
import Windmi.Library.Runs

/-!
# Persisted settings

The settings callback is called with the settings in force at that moment.
What is persisted drifts away from them when the priority is changed later
without a call: by the override of a mode command, whose callback comes first,
or by the enforcement of the priority.
-/

namespace Windmi.Core

open Windmi.Library
open Windmi.Modbus

variable {Device : Type} (client : IModbusClient Device)

/-! ## Settings in force and persisted settings -/

def ControlLoop.inForce (loop : ControlLoop) : Settings where
  workingMode := loop.desiredWorkingMode
  priority := priorityToString loop.currentPriority
  dhwTarget := loop.mDhwTarget
  heatingTarget := loop.mHeatingTarget

def Event.persisted : Event → Option Settings
  | .settings workingMode priority dhwTarget heatingTarget =>
      some
        { workingMode := workingMode
          priority := priority
          dhwTarget := dhwTarget
          heatingTarget := heatingTarget }
  | _ => none

/-- The last arguments of the callback, or the initial settings. -/
def persisted (initial : Settings) (history : List Event) : Settings :=
  (history.filterMap Event.persisted).head?.getD initial

def Drifted (initial : Settings) (world : World Device) : Prop :=
  persisted initial world.bus.history ≠ world.loop.inForce

theorem priorityToString_injective :
    Function.Injective priorityToString := by
  intro first second equal
  cases first <;> cases second <;>
    first
    | rfl
    | exact absurd equal (by decide)

/-! ## Steps which touch neither side -/

/-- Neither the persisted settings nor those in force are touched. -/
structure Unmoved (before after : World Device) : Prop where
  persisted : ∀ initial,
    persisted initial after.bus.history =
      persisted initial before.bus.history
  inForce : after.loop.inForce = before.loop.inForce

theorem Unmoved.refl (world : World Device) : Unmoved world world where
  persisted _ := rfl
  inForce := rfl

theorem Unmoved.drifted_iff {before after : World Device}
    (unmoved : Unmoved before after) (initial : Settings) :
    Drifted initial after ↔ Drifted initial before := by
  unfold Drifted
  rw [unmoved.persisted, unmoved.inForce]

theorem Unmoved.trans {first second third : World Device}
    (before : Unmoved first second) (after : Unmoved second third) :
    Unmoved first third where
  persisted initial := (after.persisted initial).trans
    (before.persisted initial)
  inForce := after.inForce.trans before.inForce

theorem unmoved_emit (world : World Device) {event : Event}
    (silent : event.persisted = none) : Unmoved world (world.emit event) where
  persisted initial := by
    simp [Core.persisted, World.emit, silent]
  inForce := rfl

theorem unmoved_writeRegister (address : Address) (value : Word)
    (world : World Device) :
    Unmoved world (world.writeRegister client address value).2 :=
  ⟨fun _ => rfl, rfl⟩

theorem unmoved_updateLoop (world : World Device)
    {update : ControlLoop → ControlLoop}
    (same : ∀ loop, (update loop).inForce = loop.inForce) :
    Unmoved world (world.updateLoop update) :=
  ⟨fun _ => rfl, same world.loop⟩

theorem unmoved_setRunningMode (mode : Int) (world : World Device) :
    Unmoved world (setRunningMode client mode world).2 := by
  simp only [setRunningMode]
  split_ifs
  · exact Unmoved.refl world
  · exact unmoved_writeRegister client _ _ world
  · exact unmoved_writeRegister client _ _ world

theorem unmoved_correctDeviceMode (world : World Device) :
    Unmoved world (correctDeviceMode client world) := by
  have written := unmoved_setRunningMode client
    (desiredDeviceMode world.loop.desiredWorkingMode) world
  simp only [correctDeviceMode]
  split_ifs
  · exact written.trans (unmoved_updateLoop _ fun _ => rfl)
  · exact written
  · exact Unmoved.refl world

theorem unmoved_readStatus (status : StatusSnapshot) (world : World Device) :
    Unmoved world (readStatus client status world).world := by
  constructor
  case persisted =>
    intro initial
    unfold Core.persisted
    rw [(readStatus_adds client world status).filterMap_eq]
    rintro event ⟨address, outcome, rfl⟩
    rfl
  case inForce =>
    rw [readStatus_spec]
    simp only [pollWith, observe_eq]
    rfl

/-! ## Steps which call back -/

/-- Afterwards nothing is moved, or everything is persisted. -/
structure CallsBackIf (condition : Prop) (before after : World Device) :
    Prop where
  unmoved : ¬ condition → Unmoved before after
  synced : condition → ∀ initial, ¬ Drifted initial after

theorem CallsBackIf.drifted_iff {condition : Prop}
    {before after : World Device} (step : CallsBackIf condition before after)
    (initial : Settings) :
    Drifted initial after ↔ Drifted initial before ∧ ¬ condition := by
  by_cases called : condition
  · exact iff_of_false (step.synced called initial)
      fun impossible => impossible.2 called
  · rw [(step.unmoved called).drifted_iff]
    exact (and_iff_left called).symm

theorem CallsBackIf.andThen {condition : Prop}
    {before after later : World Device}
    (step : CallsBackIf condition before after)
    (unmoved : Unmoved after later) : CallsBackIf condition before later where
  unmoved called := (step.unmoved called).trans unmoved
  synced called initial := by
    rw [unmoved.drifted_iff]
    exact step.synced called initial

theorem CallsBackIf.afterwards {condition : Prop}
    {earlier before after : World Device} (unmoved : Unmoved earlier before)
    (step : CallsBackIf condition before after) :
    CallsBackIf condition earlier after where
  unmoved called := unmoved.trans (step.unmoved called)
  synced := step.synced

theorem CallsBackIf.trans {first second : Prop}
    {before between after : World Device}
    (earlier : CallsBackIf first before between)
    (later : CallsBackIf second between after) :
    CallsBackIf (first ∨ second) before after where
  unmoved called :=
    (earlier.unmoved fun one => called (Or.inl one)).trans
      (later.unmoved fun two => called (Or.inr two))
  synced called initial := by
    rw [later.drifted_iff]
    rintro ⟨drifted, silent⟩
    rcases called with one | two
    · exact earlier.synced one initial drifted
    · exact silent two

theorem fireSettingsCallback_synced (initial : Settings)
    (world : World Device) :
    ¬ Drifted initial world.fireSettingsCallback := by
  unfold Drifted
  exact not_not.mpr rfl

/-- Steps which call back on success and move nothing on failure. -/
theorem callsBackIf_ite {called : Prop} [Decidable called]
    {before success failure : World Device}
    (unmoved : ¬ called → Unmoved before failure) :
    CallsBackIf called before
      (if called then success.fireSettingsCallback else failure) := by
  constructor
  case unmoved =>
    intro refused
    rw [if_neg refused]
    exact unmoved refused
  case synced =>
    intro accepted initial
    rw [if_pos accepted]
    exact fireSettingsCallback_synced initial success

/-- A target which is written is persisted with everything else. -/
theorem setDhwTarget_callsBack (temp : ℚ) (world : World Device) :
    CallsBackIf (world.accepts client regDhwTarget (tempToRaw temp) = true)
      world (setDhwTarget client temp world).2 := by
  rw [setDhwTarget_world, writeRegister_accepts]
  exact callsBackIf_ite fun _ => unmoved_writeRegister client _ _ world

theorem setHeatingTarget_callsBack (temp : ℚ) (world : World Device) :
    CallsBackIf
      (world.accepts client regHeatingTarget (tempToRaw temp) = true) world
      (setHeatingTarget client temp world).2 := by
  rw [setHeatingTarget_world, writeRegister_accepts]
  exact callsBackIf_ite fun _ => unmoved_writeRegister client _ _ world

theorem writePriority_accepts (value : Word) (priority : PriorityMode)
    (world : World Device) :
    (writePriority client value priority world).1 =
      world.accepts client regDhwPriority value := by
  unfold writePriority
  dsimp only
  rw [writeRegister_accepts]
  split
  case isTrue accepted => exact accepted.symm
  case isFalse refused => rfl

theorem processSetPriority_callsBack (value : Int) (world : World Device) :
    CallsBackIf
      (world.accepts client regDhwPriority (BitVec.ofInt 16 value) = true)
      world (processSetPriority client value world) := by
  unfold processSetPriority
  dsimp only
  rw [writePriority_accepts, writePriority_world, writeRegister_accepts]
  refine callsBackIf_ite fun refused => ?_
  rw [if_neg refused]
  exact unmoved_writeRegister client _ _ world

/-- A step under a condition of its own. -/
theorem CallsBackIf.ite {guard called : Prop} [Decidable guard]
    {before after : World Device} (step : CallsBackIf called before after) :
    CallsBackIf (guard ∧ called) before (if guard then after else before) := by
  by_cases holds : guard
  · rw [if_pos holds]
    exact ⟨fun silent => step.unmoved fun called => silent ⟨holds, called⟩,
      fun both => step.synced both.2⟩
  · rw [if_neg holds]
    exact ⟨fun _ => Unmoved.refl before, fun both => absurd both.1 holds⟩

/-- The condition under which the enforcement of targets writes one. -/
def TargetsCallBack (status : StatusSnapshot) (world : World Device) :
    Prop :=
  match world.loop.desiredWorkingMode with
  | 1 =>
      status.heatingTarget > heatingTargetMin + 1 / 2 ∧
        world.accepts client regHeatingTarget (tempToRaw heatingTargetMin)
  | 2 =>
      status.dhwTarget > dhwTargetMin + 1 / 2 ∧
        world.accepts client regDhwTarget (tempToRaw dhwTargetMin)
  | 3 =>
      let saved := world.loop.savedDhwTarget
      let restored := restoreDhwTarget client status world
      let savedHeating := restored.loop.savedHeatingTarget
      (Apart status.dhwTarget saved ∧
          world.accepts client regDhwTarget (tempToRaw saved)) ∨
        (Apart status.heatingTarget savedHeating ∧
          restored.accepts client regHeatingTarget (tempToRaw savedHeating))
  | _ => False

theorem enforceTargets_callsBack (status : StatusSnapshot)
    (world : World Device) :
    CallsBackIf (TargetsCallBack client status world) world
      (enforceTargets client status world) := by
  unfold enforceTargets
  split
  case h_1 one =>
    rw [TargetsCallBack, one]
    exact (setHeatingTarget_callsBack client _ world).ite
  case h_2 two =>
    rw [TargetsCallBack, two]
    exact (setDhwTarget_callsBack client _ world).ite
  case h_3 three =>
    rw [TargetsCallBack, three]
    exact (setDhwTarget_callsBack client _ world).ite.trans
      (setHeatingTarget_callsBack client _ _).ite
  case h_4 notOne notTwo notThree =>
    have silent : ¬ TargetsCallBack client status world := by
      unfold TargetsCallBack
      split
      case h_1 one => exact absurd one notOne
      case h_2 two => exact absurd two notTwo
      case h_3 three => exact absurd three notThree
      case h_4 => exact not_false
    exact ⟨fun _ => Unmoved.refl world, fun called => absurd called silent⟩

/-! ## Steps which change the priority silently -/

/-- The targets which a mode command sets before it sets the priority. -/
def overrideSetpoints (workingMode : Int) (world : World Device) :
    World Device :=
  match workingMode with
  | 1 => (setHeatingTarget client heatingTargetMin world).2
  | 2 => (setDhwTarget client dhwTargetMin world).2
  | 3 =>
      let world := (setDhwTarget client world.loop.savedDhwTarget world).2
      (setHeatingTarget client world.loop.savedHeatingTarget world).2
  | _ => world

theorem overrideTargets_eq (workingMode : Int) (world : World Device) :
    overrideTargets client workingMode world =
      (requiredPriority workingMode).elim
        (overrideSetpoints client workingMode world) fun priority =>
          (writePriority client (priorityWord priority) priority
            (overrideSetpoints client workingMode world)).2 := by
  unfold overrideTargets overrideSetpoints
  split
  · rfl
  · rfl
  · rfl
  case h_4 notOne notTwo notThree =>
    rw [requiredPriority_eq_none notOne notTwo notThree]
    simp only [Option.elim_none]

theorem enforcePriority_eq (world : World Device) :
    enforcePriority client world =
      (requiredPriority world.loop.desiredWorkingMode).elim world
        fun priority =>
          if world.loop.currentPriority ≠ priority then
            (writePriority client (priorityWord priority) priority world).2
          else
            world := by
  unfold enforcePriority
  generalize world.loop.desiredWorkingMode = mode
  split
  · rfl
  · rfl
  · rfl
  case h_4 notOne notThree notTwo =>
    rw [requiredPriority_eq_none notOne notTwo notThree]
    rfl

/-- Writing the priority moves only the side in force. -/
theorem writePriority_inForce (priority : PriorityMode)
    (world : World Device) :
    (writePriority client (priorityWord priority) priority
        world).2.loop.inForce =
      if world.accepts client regDhwPriority (priorityWord priority) then
        { world.loop.inForce with priority := priorityToString priority }
      else
        world.loop.inForce := by
  rw [writePriority_world, writeRegister_accepts]
  exact apply_ite (fun world : World Device => world.loop.inForce) ..

theorem writePriority_persisted (initial : Settings) (value : Word)
    (priority : PriorityMode) (world : World Device) :
    persisted initial (writePriority client value priority world).2.bus.history =
      persisted initial world.bus.history := by
  rw [writePriority_world]
  exact (apply_ite (fun world : World Device =>
    persisted initial world.bus.history) ..).trans (ite_self _)

theorem writePriority_drifted_iff {initial : Settings}
    {world : World Device} (synced : ¬ Drifted initial world)
    (priority : PriorityMode) :
    Drifted initial
        (writePriority client (priorityWord priority) priority world).2 ↔
      world.loop.currentPriority ≠ priority ∧
        world.accepts client regDhwPriority (priorityWord priority) := by
  unfold Drifted at synced ⊢
  rw [writePriority_persisted, writePriority_inForce, not_not.mp synced]
  split
  case isTrue accepted =>
    rw [and_iff_left accepted]
    apply not_congr
    constructor
    · intro equal
      exact priorityToString_injective (congrArg Settings.priority equal)
    · rintro rfl
      rfl
  case isFalse refused =>
    exact iff_of_false (not_not.mpr rfl) fun impossible =>
      refused impossible.2

/-- The working mode determines the priority which is in force. -/
def Settings.Determined (settings : Settings) : Prop :=
  (requiredPriority settings.workingMode).map priorityToString =
    some settings.priority

theorem writePriority_determined {world : World Device}
    {priority : PriorityMode}
    (demanded :
      requiredPriority world.loop.desiredWorkingMode = some priority)
    (accepted :
      world.accepts client regDhwPriority (priorityWord priority)) :
    (writePriority client (priorityWord priority) priority
      world).2.loop.inForce.Determined := by
  unfold Settings.Determined
  rw [writePriority_inForce, if_pos accepted]
  exact congrArg (Option.map priorityToString) demanded

/-! ### Mode commands -/

/-- A mode command has called back, and has not written anything. -/
def commandedWorld (workingMode : Int) (world : World Device) :
    World Device :=
  (world.updateLoop fun loop =>
    { loop with desiredWorkingMode := workingMode }).fireSettingsCallback

/-- A mode command is about to write the priority. -/
def overriddenWorld (workingMode : Int) (world : World Device) :
    World Device :=
  overrideSetpoints client workingMode
    ((setRunningMode client (targetDeviceMode workingMode)
        (commandedWorld workingMode world)).2.updateLoop fun loop =>
      { loop with currentMode := targetDeviceMode workingMode })

/-- A mode command changes the priority after its callback. -/
def SilentMode (workingMode : Int) (world : World Device) : Prop :=
  (setRunningMode client (targetDeviceMode workingMode)
      (commandedWorld workingMode world)).1 = 0 ∧
    ∃ priority, requiredPriority workingMode = some priority ∧
      world.loop.currentPriority ≠ priority ∧
      (overriddenWorld client workingMode world).accepts client
        regDhwPriority (priorityWord priority)

theorem overrideSetpoints_synced {initial : Settings}
    {world : World Device} (synced : ¬ Drifted initial world)
    (workingMode : Int) :
    ¬ Drifted initial (overrideSetpoints client workingMode world) := by
  unfold overrideSetpoints
  split
  · rw [(setHeatingTarget_callsBack client _ world).drifted_iff]
    exact fun drifted => synced drifted.1
  · rw [(setDhwTarget_callsBack client _ world).drifted_iff]
    exact fun drifted => synced drifted.1
  · rw [(setHeatingTarget_callsBack client _ _).drifted_iff,
      (setDhwTarget_callsBack client _ world).drifted_iff]
    exact fun drifted => synced drifted.1.1
  · exact synced

theorem overrideSetpoints_loop (workingMode : Int) (world : World Device) :
    ∃ dhw heating,
      (overrideSetpoints client workingMode world).loop =
        { world.loop with mDhwTarget := dhw, mHeatingTarget := heating } := by
  unfold overrideSetpoints
  split
  · rcases setHeatingTarget_loop client world heatingTargetMin with
      ⟨heating, equal⟩
    exact ⟨world.loop.mDhwTarget, heating, equal⟩
  · rcases setDhwTarget_loop client world dhwTargetMin with ⟨dhw, equal⟩
    exact ⟨dhw, world.loop.mHeatingTarget, equal⟩
  · rcases setDhwTarget_loop client world world.loop.savedDhwTarget with
      ⟨dhw, first⟩
    rcases setHeatingTarget_loop client
      (setDhwTarget client world.loop.savedDhwTarget world).2
      (setDhwTarget client world.loop.savedDhwTarget
        world).2.loop.savedHeatingTarget with
      ⟨heating, second⟩
    refine ⟨dhw, heating, ?_⟩
    dsimp only
    rw [second, first]
  · exact ⟨world.loop.mDhwTarget, world.loop.mHeatingTarget, rfl⟩

theorem overriddenWorld_loop (workingMode : Int) (world : World Device) :
    (overriddenWorld client workingMode world).loop.desiredWorkingMode =
        workingMode ∧
      (overriddenWorld client workingMode world).loop.currentPriority =
        world.loop.currentPriority := by
  unfold overriddenWorld
  rcases overrideSetpoints_loop client workingMode
    ((setRunningMode client (targetDeviceMode workingMode)
        (commandedWorld workingMode world)).2.updateLoop fun loop =>
      { loop with currentMode := targetDeviceMode workingMode }) with
    ⟨dhw, heating, equal⟩
  rw [equal]
  simp only [World.updateLoop]
  rw [setRunningMode_loop]
  exact ⟨rfl, rfl⟩

theorem overriddenWorld_synced (initial : Settings) (workingMode : Int)
    (world : World Device) :
    ¬ Drifted initial (overriddenWorld client workingMode world) := by
  apply overrideSetpoints_synced
  have called : ¬ Drifted initial (commandedWorld workingMode world) :=
    fireSettingsCallback_synced initial _
  intro drifted
  apply called
  rw [← (unmoved_setRunningMode client _ _).drifted_iff]
  refine (Unmoved.drifted_iff ?_ initial).mp drifted
  exact unmoved_updateLoop _ fun _ => rfl

theorem processSetRunningMode_eq (workingMode : Int)
    (world : World Device) :
    processSetRunningMode client workingMode world =
      if (setRunningMode client (targetDeviceMode workingMode)
          (commandedWorld workingMode world)).1 = 0 then
        (requiredPriority workingMode).elim
          (overriddenWorld client workingMode world) fun priority =>
            (writePriority client (priorityWord priority) priority
              (overriddenWorld client workingMode world)).2
      else
        (setRunningMode client (targetDeviceMode workingMode)
          (commandedWorld workingMode world)).2 := by
  rw [overriddenWorld, ← overrideTargets_eq]
  rfl

/-- A mode command leaves a drift exactly if it changes the priority. -/
theorem processSetRunningMode_drifted_iff (initial : Settings)
    (workingMode : Int) (world : World Device) :
    Drifted initial (processSetRunningMode client workingMode world) ↔
      SilentMode client workingMode world := by
  rw [processSetRunningMode_eq]
  unfold SilentMode
  split
  case isTrue written =>
    rw [and_iff_right written]
    have synced := overriddenWorld_synced client initial workingMode world
    cases requiredPriority workingMode with
    | none => simpa using synced
    | some priority =>
        have same := (overriddenWorld_loop client workingMode world).2
        have step := writePriority_drifted_iff client synced priority
        rw [same] at step
        simpa using step
  case isFalse failed =>
    rw [(unmoved_setRunningMode client _ _).drifted_iff]
    exact iff_of_false (fireSettingsCallback_synced initial _)
      fun silent => failed silent.1

theorem SilentMode.determined {workingMode : Int} {world : World Device}
    (silent : SilentMode client workingMode world) :
    (processSetRunningMode client workingMode
      world).loop.inForce.Determined := by
  rcases silent with ⟨written, priority, demanded, -, accepted⟩
  rw [processSetRunningMode_eq, if_pos written, demanded]
  apply writePriority_determined client _ accepted
  rw [(overriddenWorld_loop client workingMode world).1, demanded]

/-! ### Commands -/

/-- The condition under which a command calls back. -/
def CommandCallsBack (world : World Device) (cmd : Command) : Prop :=
  match cmd.type with
  | .setDhwTemp => world.accepts client regDhwTarget (tempToRaw cmd.floatVal)
  | .setHeatingTemp =>
      world.accepts client regHeatingTarget (tempToRaw cmd.floatVal)
  | .setPriority =>
      world.accepts client regDhwPriority (BitVec.ofInt 16 cmd.intVal)
  | .setOccupancyMode => False
  | .setRunningMode => True

/-- A command changes the priority after its last callback. -/
def SilentCommand (world : World Device) (cmd : Command) : Prop :=
  cmd.type = .setRunningMode ∧
    SilentMode client cmd.intVal (world.emit (.command cmd))

/-- All commands but those for the mode persist what they change, or nothing. -/
theorem processCommand_callsBack {cmd : Command}
    (other : cmd.type ≠ .setRunningMode) (world : World Device) :
    CallsBackIf (CommandCallsBack client world cmd) world
      (processCommand client cmd world) := by
  have popped : Unmoved world (world.emit (.command cmd)) :=
    unmoved_emit world rfl
  unfold CommandCallsBack processCommand
  generalize cmd.type = type at other ⊢
  cases type with
  | setDhwTemp =>
      exact ((setDhwTarget_callsBack client cmd.floatVal
        (world.emit (.command cmd))).afterwards popped).andThen
          (unmoved_updateLoop _ fun _ => rfl)
  | setHeatingTemp =>
      exact ((setHeatingTarget_callsBack client cmd.floatVal
        (world.emit (.command cmd))).afterwards popped).andThen
          (unmoved_updateLoop _ fun _ => rfl)
  | setPriority =>
      exact (processSetPriority_callsBack client cmd.intVal
        (world.emit (.command cmd))).afterwards popped
  | setOccupancyMode =>
      exact ⟨fun _ => popped.trans (unmoved_writeRegister client _ _ _),
        False.elim⟩
  | setRunningMode => exact absurd rfl other

theorem processCommand_setRunningMode {cmd : Command}
    (mode : cmd.type = .setRunningMode) (world : World Device) :
    processCommand client cmd world =
      processSetRunningMode client cmd.intVal
        (world.emit (.command cmd)) := by
  simp only [processCommand, mode]

theorem processCommand_drifted_iff (initial : Settings)
    (world : World Device) (cmd : Command) :
    Drifted initial (processCommand client cmd world) ↔
      SilentCommand client world cmd ∨
        (Drifted initial world ∧ ¬ CommandCallsBack client world cmd) := by
  by_cases mode : cmd.type = .setRunningMode
  · have called : CommandCallsBack client world cmd := by
      simp only [CommandCallsBack, mode]
    rw [processCommand_setRunningMode client mode,
      processSetRunningMode_drifted_iff, SilentCommand, and_iff_right mode]
    exact (or_iff_left fun impossible => impossible.2 called).symm
  · rw [(processCommand_callsBack client mode world).drifted_iff]
    exact (or_iff_right fun silent => mode silent.1).symm

/-! ### Enforcement -/

/-- The enforcement is about to change the priority. -/
def SilentEnforcement (world : World Device) : Prop :=
  ∃ priority, requiredPriority world.loop.desiredWorkingMode = some priority ∧
    world.loop.currentPriority ≠ priority ∧
    world.accepts client regDhwPriority (priorityWord priority)

/--
A drift has the priority which the mode demands on the side in force, unless
the initial settings have no priority at all.
-/
def Explained (initial : Settings) (world : World Device) : Prop :=
  Drifted initial world →
    world.loop.inForce.Determined ∨
      ∀ priority, priorityToString priority ≠
        (persisted initial world.bus.history).priority

theorem Unmoved.explained {before after : World Device}
    (unmoved : Unmoved before after) {initial : Settings}
    (explained : Explained initial before) : Explained initial after := by
  unfold Explained
  rw [unmoved.drifted_iff, unmoved.persisted, unmoved.inForce]
  exact explained

theorem CallsBackIf.explained {condition : Prop}
    {before after : World Device} (step : CallsBackIf condition before after)
    {initial : Settings} (explained : Explained initial before) :
    Explained initial after := by
  by_cases called : condition
  · exact fun drifted => absurd drifted (step.synced called initial)
  · exact (step.unmoved called).explained explained

theorem processCommand_explained {initial : Settings}
    {world : World Device} (explained : Explained initial world)
    (cmd : Command) :
    Explained initial (processCommand client cmd world) := by
  by_cases mode : cmd.type = .setRunningMode
  · intro drifted
    rw [processCommand_setRunningMode client mode] at drifted ⊢
    left
    exact SilentMode.determined client
      ((processSetRunningMode_drifted_iff client _ _ _).mp drifted)
  · exact (processCommand_callsBack client mode world).explained explained

theorem SilentEnforcement.determined {world : World Device}
    (silent : SilentEnforcement client world) :
    (enforcePriority client world).loop.inForce.Determined := by
  rcases silent with ⟨priority, demanded, differs, accepted⟩
  rw [enforcePriority_eq, demanded]
  simp only [Option.elim_some]
  rw [if_pos differs]
  exact writePriority_determined client demanded accepted

theorem unmoved_enforcePriority {world : World Device}
    (silent : ¬ SilentEnforcement client world) :
    Unmoved world (enforcePriority client world) := by
  rw [enforcePriority_eq]
  unfold SilentEnforcement at silent
  generalize requiredPriority world.loop.desiredWorkingMode = demanded
    at silent ⊢
  cases demanded with
  | none => exact Unmoved.refl world
  | some priority =>
      simp only [Option.elim_some]
      split
      case isFalse same => exact Unmoved.refl world
      case isTrue differs =>
        have refused : ¬ world.accepts client regDhwPriority
            (priorityWord priority) :=
          fun accepted => silent ⟨priority, rfl, differs, accepted⟩
        constructor
        case persisted =>
          exact fun initial => writePriority_persisted client initial _ _ _
        case inForce => rw [writePriority_inForce, if_neg refused]

/-- The enforcement can only add a drift, never take one back. -/
theorem enforcePriority_drifted_iff {initial : Settings}
    {world : World Device} (explained : Explained initial world) :
    Drifted initial (enforcePriority client world) ↔
      SilentEnforcement client world ∨ Drifted initial world := by
  by_cases silent : SilentEnforcement client world
  · refine iff_of_true ?_ (Or.inl silent)
    rcases silent with ⟨priority, demanded, differs, accepted⟩
    rw [enforcePriority_eq, demanded]
    simp only [Option.elim_some]
    rw [if_pos differs]
    by_cases drifted : Drifted initial world
    · rcases explained drifted with determined | unknown
      · unfold Settings.Determined at determined
        rw [show requiredPriority world.loop.inForce.workingMode = some priority
          from demanded] at determined
        have same := priorityToString_injective
          (Option.some.inj determined)
        exact absurd same.symm differs
      · unfold Drifted
        rw [writePriority_persisted, writePriority_inForce, if_pos accepted]
        exact fun equal =>
          unknown priority (congrArg Settings.priority equal).symm
    · exact (writePriority_drifted_iff client drifted priority).mpr
        ⟨differs, accepted⟩
  · rw [(unmoved_enforcePriority client silent).drifted_iff]
    exact (or_iff_right silent).symm

theorem enforcePriority_explained {initial : Settings}
    {world : World Device} (explained : Explained initial world) :
    Explained initial (enforcePriority client world) := by
  by_cases silent : SilentEnforcement client world
  · exact fun _ => Or.inl (SilentEnforcement.determined client silent)
  · exact (unmoved_enforcePriority client silent).explained explained

/-! ### Control logic -/

/-- The state in which the control logic enforces the targets. -/
def correctedWorld (world : World Device) : World Device :=
  correctDeviceMode client (world.emit .control)

def ControlCallsBack (status : StatusSnapshot) (world : World Device) :
    Prop :=
  TargetsCallBack client status (correctedWorld client world)

/-- The control logic ends with a change of the priority. -/
def SilentControl (status : StatusSnapshot) (world : World Device) : Prop :=
  SilentEnforcement client
    (enforceTargets client status (correctedWorld client world))

theorem enforceTargets_corrected_callsBack (status : StatusSnapshot)
    (world : World Device) :
    CallsBackIf (ControlCallsBack client status world) world
      (enforceTargets client status (correctedWorld client world)) :=
  (enforceTargets_callsBack client status _).afterwards
    ((unmoved_emit world rfl).trans (unmoved_correctDeviceMode client _))

theorem applyControlLogic_drifted_iff {initial : Settings}
    {world : World Device} (explained : Explained initial world)
    (status : StatusSnapshot) :
    Drifted initial (applyControlLogic client status world) ↔
      SilentControl client status world ∨
        (Drifted initial world ∧ ¬ ControlCallsBack client status world) := by
  have targets := enforceTargets_corrected_callsBack client status world
  rw [← targets.drifted_iff]
  exact enforcePriority_drifted_iff client (targets.explained explained)

theorem applyControlLogic_explained {initial : Settings}
    {world : World Device} (explained : Explained initial world)
    (status : StatusSnapshot) :
    Explained initial (applyControlLogic client status world) :=
  enforcePriority_explained client
    ((enforceTargets_corrected_callsBack client status world).explained
      explained)

end Windmi.Core
