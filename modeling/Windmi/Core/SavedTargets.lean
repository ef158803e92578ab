import Windmi.Core.Effects
import Windmi.Library.Runs

/-!
# What becomes of the user's setpoints

A setpoint command stores its temperature in a saved target, whether or not
the register accepts it, and nothing but a poll before the first complete one
overwrites it.  The setpoints of a run are kept exactly if no such poll reads
anything else from a target register than the setpoint that was commanded.
-/

namespace Windmi.Core

open Windmi.Library
open Windmi.Modbus

/-- The temperature which a command of one kind carries. -/
def Event.setpoint (kind : CommandType) : Event → Option ℚ
  | .command cmd => if cmd.type = kind then some cmd.floatVal else none
  | _ => none

/-- The temperature of the last command of one kind. -/
def lastSetpoint (kind : CommandType) (history : List Event) : Option ℚ :=
  history.findSome? (Event.setpoint kind)

/-- The saved targets represent the last setpoints to register precision. -/
structure SetpointsKept {Device : Type} (world : World Device) :
    Prop where
  dhw : ∀ temp, lastSetpoint .setDhwTemp world.bus.history = some temp →
    tempToRaw world.loop.savedDhwTarget = tempToRaw temp
  heating : ∀ temp,
    lastSetpoint .setHeatingTemp world.bus.history = some temp →
      tempToRaw world.loop.savedHeatingTarget = tempToRaw temp

/-- The values written to a register, newest first. -/
def writesTo (address : Address) (history : List Event) : List Word :=
  history.filterMap fun event =>
    match event with
    | .write written value _ _ =>
        if written = address then some value else none
    | _ => none

/-- A mode 3 command in this world writes exactly the last setpoints. -/
structure SetpointsRestored {Device : Type}
    (client : IModbusClient Device) (cmd : Command) (world : World Device) :
    Prop where
  dhw : ∀ temp, lastSetpoint .setDhwTemp world.bus.history = some temp →
    writesTo regDhwTarget (processCommand client cmd world).bus.history =
      tempToRaw temp :: writesTo regDhwTarget world.bus.history
  heating : ∀ temp,
    lastSetpoint .setHeatingTemp world.bus.history = some temp →
      writesTo regHeatingTarget
          (processCommand client cmd world).bus.history =
        tempToRaw temp :: writesTo regHeatingTarget world.bus.history

/--
The poll made in this world does not put anything else in the place of a
setpoint: the targets are settled already, or the read of the target register
fails, or it gives what was commanded.
-/
structure PollFaithful {Device : Type} (client : IModbusClient Device)
    (world : World Device) : Prop where
  dhw : world.loop.savedTargetsInitialized = false →
    ∀ temp raw, lastSetpoint .setDhwTemp world.bus.history = some temp →
      (pollReads client world.bus.device).1 regDhwTarget = some raw →
        raw = tempToRaw temp
  heating : world.loop.savedTargetsInitialized = false →
    ∀ temp raw,
      lastSetpoint .setHeatingTemp world.bus.history = some temp →
        (pollReads client world.bus.device).1 regHeatingTarget = some raw →
          raw = tempToRaw temp

section

variable {Device : Type} {world : World Device}

/-! ## Histories and setpoints -/

theorem Adds.lastSetpoint_eq {allowed : Event → Prop}
    {first second : World Device} (adds : Adds allowed first second)
    (kind : CommandType)
    (silent : ∀ event, allowed event → event.setpoint kind = none) :
    lastSetpoint kind second.bus.history =
      lastSetpoint kind first.bus.history := by
  rcases adds with ⟨newer, equal, all⟩
  have nothing : newer.findSome? (Event.setpoint kind) = none :=
    List.findSome?_eq_none_iff.mpr fun event member =>
      silent event (all event member)
  rw [lastSetpoint, equal, List.findSome?_append, nothing]
  rfl

theorem Event.IsAction.setpoint {event : Event} (action : event.IsAction)
    (kind : CommandType) : event.setpoint kind = none := by
  cases event with
  | command cmd => exact action.elim
  | _ => rfl

/-- What neither commands nor saves anything keeps the setpoints. -/
theorem SetpointsKept.transfer {later : World Device}
    (kept : SetpointsKept world)
    (lastEqual : ∀ kind, lastSetpoint kind later.bus.history =
      lastSetpoint kind world.bus.history)
    (dhwEqual : later.loop.savedDhwTarget = world.loop.savedDhwTarget)
    (heatingEqual :
      later.loop.savedHeatingTarget = world.loop.savedHeatingTarget) :
    SetpointsKept later where
  dhw := by
    rw [lastEqual, dhwEqual]
    exact kept.dhw
  heating := by
    rw [lastEqual, heatingEqual]
    exact kept.heating

variable (client : IModbusClient Device)

/-! ## Commands -/

/-- A command is the only thing in its processing that sets a setpoint. -/
theorem processCommand_lastSetpoint (cmd : Command) (kind : CommandType) :
    lastSetpoint kind (processCommand client cmd world).bus.history =
      if cmd.type = kind then some cmd.floatVal
      else lastSetpoint kind world.bus.history := by
  have rest := processCommand_actions client world cmd
  rw [rest.lastSetpoint_eq kind fun event action => action.setpoint kind]
  simp only [World.emit, lastSetpoint, List.findSome?_cons, Event.setpoint]
  split_ifs <;> rfl

/-- Processing any command keeps the setpoints, even if its write fails. -/
theorem SetpointsKept.processCommand (kept : SetpointsKept world)
    (cmd : Command) : SetpointsKept (processCommand client cmd world) := by
  rcases processCommand_saved client world cmd with ⟨dhw, heating, -⟩
  constructor
  · intro temp
    rw [processCommand_lastSetpoint, dhw]
    split_ifs
    · rintro ⟨⟩
      rfl
    · exact kept.dhw temp
  · intro temp
    rw [processCommand_lastSetpoint, heating]
    split_ifs
    · rintro ⟨⟩
      rfl
    · exact kept.heating temp

theorem SetpointsKept.processCommands (kept : SetpointsKept world)
    (batch : List Command) :
    SetpointsKept (processCommands client batch world) :=
  List.foldlRecOn batch _ kept
    fun _ previous cmd _ => previous.processCommand client cmd

/-! ## Writes of a mode 3 command -/

theorem writeRegister_writesTo (world : World Device)
    (written address : Address) (value : Word) :
    writesTo address
        (world.writeRegister client written value).2.bus.history =
      if written = address then
        value :: writesTo address world.bus.history
      else
        writesTo address world.bus.history := by
  simp only [World.writeRegister, writesTo, List.filterMap_cons]
  split_ifs <;> rfl

theorem setDhwTarget_writesTo (address : Address) (temp : ℚ) :
    writesTo address (setDhwTarget client temp world).2.bus.history =
      if regDhwTarget = address then
        tempToRaw temp :: writesTo address world.bus.history
      else
        writesTo address world.bus.history := by
  rw [← writeRegister_writesTo client, setDhwTarget_world]
  split_ifs <;> rfl

theorem setHeatingTarget_writesTo (address : Address) (temp : ℚ) :
    writesTo address (setHeatingTarget client temp world).2.bus.history =
      if regHeatingTarget = address then
        tempToRaw temp :: writesTo address world.bus.history
      else
        writesTo address world.bus.history := by
  rw [← writeRegister_writesTo client, setHeatingTarget_world]
  split_ifs <;> rfl

theorem writePriority_writesTo (address : Address) (value : Word)
    (priority : PriorityMode) (other : regDhwPriority ≠ address) :
    writesTo address
        (writePriority client value priority world).2.bus.history =
      writesTo address world.bus.history := by
  have written := writeRegister_writesTo client world
    regDhwPriority address value
  rw [if_neg other] at written
  rw [← written, writePriority_world]
  split_ifs <;> rfl

/-- Mode 3 writes each saved target once. -/
theorem overrideTargets_writesTo :
    writesTo regDhwTarget (overrideTargets client 3 world).bus.history =
        tempToRaw world.loop.savedDhwTarget ::
          writesTo regDhwTarget world.bus.history ∧
      writesTo regHeatingTarget
          (overrideTargets client 3 world).bus.history =
        tempToRaw world.loop.savedHeatingTarget ::
          writesTo regHeatingTarget world.bus.history := by
  let restored := (setDhwTarget client world.loop.savedDhwTarget world).2
  rcases setDhwTarget_loop client world world.loop.savedDhwTarget with
    ⟨dhw, loopEqual⟩
  have heating : restored.loop.savedHeatingTarget =
      world.loop.savedHeatingTarget := by
    rw [loopEqual]
  have unfolded : overrideTargets client 3 world =
      (writePriority client 1 .dhw
        (setHeatingTarget client restored.loop.savedHeatingTarget
          restored).2).2 :=
    rfl
  rw [unfolded, heating]
  constructor
  · rw [writePriority_writesTo client _ _ _ (by decide),
      setHeatingTarget_writesTo, if_neg (by decide), setDhwTarget_writesTo,
      if_pos rfl]
  · rw [writePriority_writesTo client _ _ _ (by decide),
      setHeatingTarget_writesTo, if_pos rfl, setDhwTarget_writesTo,
      if_neg (by decide)]

/-- With its writes accepted, a mode 3 command writes the saved targets. -/
theorem processCommand_writesTo (world : World Device)
    (accepts : ∀ address value device,
      (client.writeRegister address value device).1 = true)
    {cmd : Command} (kind : cmd.type = .setRunningMode)
    (mode : cmd.intVal = 3) :
    writesTo regDhwTarget (processCommand client cmd world).bus.history =
        tempToRaw world.loop.savedDhwTarget ::
          writesTo regDhwTarget world.bus.history ∧
      writesTo regHeatingTarget
          (processCommand client cmd world).bus.history =
        tempToRaw world.loop.savedHeatingTarget ::
          writesTo regHeatingTarget world.bus.history := by
  let commanded :=
    ((world.emit (.command cmd)).updateLoop fun loop =>
      { loop with desiredWorkingMode := 3 }).fireSettingsCallback
  let switched :=
    (commanded.writeRegister client regRunningMode 2).2.updateLoop
      fun loop => { loop with currentMode := 2 }
  have success : setRunningMode client 2 commanded =
      (0, (commanded.writeRegister client regRunningMode 2).2) := by
    have accepted :
        (commanded.writeRegister client regRunningMode 2).1 = true :=
      accepts _ _ _
    simp only [setRunningMode]
    rw [if_neg (by decide)]
    exact if_pos accepted
  have unfolded :
      processCommand client cmd world = overrideTargets client 3 switched := by
    simp only [processCommand, kind, processSetRunningMode, mode,
      targetDeviceMode, modeSetHeatDhw]
    rw [success]
    rfl
  rw [unfolded]
  exact overrideTargets_writesTo client

theorem SetpointsKept.restored (kept : SetpointsKept world)
    (accepts : ∀ address value device,
      (client.writeRegister address value device).1 = true)
    {cmd : Command} (kind : cmd.type = .setRunningMode)
    (mode : cmd.intVal = 3) : SetpointsRestored client cmd world := by
  rcases processCommand_writesTo client world accepts kind mode with
    ⟨dhw, heating⟩
  constructor
  · intro temp last
    rw [dhw, kept.dhw temp last]
  · intro temp last
    rw [heating, kept.heating temp last]

/-! ## Polls and control logic -/

theorem readStatus_lastSetpoint (status : StatusSnapshot)
    (kind : CommandType) :
    lastSetpoint kind (readStatus client status world).world.bus.history =
      lastSetpoint kind world.bus.history := by
  refine (readStatus_adds client world status).lastSetpoint_eq kind ?_
  rintro event ⟨address, outcome, rfl⟩
  rfl

/-- A complete poll settles the saved targets. -/
theorem readStatus_initialized {status : StatusSnapshot}
    (ok : (readStatus client status world).ok = true) :
    (readStatus client status
      world).world.loop.savedTargetsInitialized = true := by
  rw [readStatus_ok] at ok
  rw [readStatus_loop, observe_eq]
  simp [ok]

/-- A saved target after a poll still represents what it should. -/
theorem tempToRaw_observedTarget {initialized : Bool}
    {outcome : Option Word} {saved : ℚ} {raw : Word}
    (kept : tempToRaw saved = raw)
    (faithful : initialized = false →
      ∀ word, outcome = some word → word = raw) :
    tempToRaw (observedTarget initialized outcome saved) = raw := by
  cases initialized with
  | true => exact kept
  | false =>
      cases outcome with
      | none => exact kept
      | some word =>
          simpa [observedTarget] using faithful rfl word rfl

theorem SetpointsKept.readStatus (kept : SetpointsKept world)
    (status : StatusSnapshot) (faithful : PollFaithful client world) :
    SetpointsKept (readStatus client status world).world := by
  constructor
  · intro temp
    rw [readStatus_lastSetpoint, readStatus_loop, observe_eq]
    intro last
    exact tempToRaw_observedTarget (kept.dhw temp last)
      fun fresh word found => faithful.dhw fresh temp word last found
  · intro temp
    rw [readStatus_lastSetpoint, readStatus_loop, observe_eq]
    intro last
    exact tempToRaw_observedTarget (kept.heating temp last)
      fun fresh word found => faithful.heating fresh temp word last found

/-- Conversely, a poll that leaves the setpoints intact was faithful. -/
theorem PollFaithful.of_kept {status : StatusSnapshot}
    (kept : SetpointsKept (readStatus client status world).world) :
    PollFaithful client world := by
  constructor
  · intro fresh temp raw last found
    have equal := kept.dhw temp
    rw [readStatus_lastSetpoint, readStatus_loop, observe_eq, fresh,
      found] at equal
    simpa [observedTarget] using equal last
  · intro fresh temp raw last found
    have equal := kept.heating temp
    rw [readStatus_lastSetpoint, readStatus_loop, observe_eq, fresh,
      found] at equal
    simpa [observedTarget] using equal last

theorem SetpointsKept.emit (kept : SetpointsKept world) {event : Event}
    (silent : ∀ kind, event.setpoint kind = none) :
    SetpointsKept (world.emit event) := by
  refine kept.transfer (fun kind => ?_) rfl rfl
  simp only [World.emit, lastSetpoint, List.findSome?_cons, silent]

theorem SetpointsKept.applyControlLogic (kept : SetpointsKept world)
    (status : StatusSnapshot) :
    SetpointsKept (applyControlLogic client status world) := by
  rcases applyControlLogic_loop client world status with
    ⟨current, dhw, heating, priority, loopEqual⟩
  refine kept.transfer (fun kind => ?_) (by rw [loopEqual])
    (by rw [loopEqual])
  refine (applyControlLogic_adds client world status).lastSetpoint_eq
    kind ?_
  rintro event (action | rfl)
  · exact action.setpoint kind
  · rfl

theorem SetpointsKept.concludeIteration {poll : Poll Device}
    (kept : SetpointsKept poll.world) :
    SetpointsKept (concludeIteration client poll) := by
  unfold Windmi.Core.concludeIteration
  split_ifs
  · exact (kept.applyControlLogic client poll.status).emit fun _ => rfl
  · exact kept.emit fun _ => rfl

/-- The setpoints at every point of one iteration. -/
structure SetpointsSafe (batch : List Command) (world : World Device) :
    Prop where
  commands : ∀ processed pending, batch = processed ++ pending →
    SetpointsKept (processCommands client processed world)
  restores : ∀ processed cmd pending,
    batch = processed ++ cmd :: pending →
      cmd.type = .setRunningMode → cmd.intVal = 3 →
        SetpointsRestored client cmd
          (processCommands client processed world)
  poll : SetpointsKept
    (readStatus client {} (processCommands client batch world)).world
  iteration : SetpointsKept (iteration client batch world)

theorem SetpointsKept.safe (kept : SetpointsKept world)
    (accepts : ∀ address value device,
      (client.writeRegister address value device).1 = true)
    {batch : List Command}
    (faithful : PollFaithful client
      (Windmi.Core.processCommands client batch world)) :
    SetpointsSafe client batch world := by
  have polled :=
    (kept.processCommands client batch).readStatus client {} faithful
  constructor
  case commands =>
    intro processed pending split
    exact kept.processCommands client processed
  case restores =>
    intro processed cmd pending split kind mode
    exact (kept.processCommands client processed).restored client accepts
      kind mode
  case poll => exact polled
  case iteration => exact polled.concludeIteration client

/-- Before the first iteration there is no command whose setpoint to keep. -/
theorem publishInitialStatus_kept (loop : ControlLoop) (device : Device) :
    SetpointsKept
      (publishInitialStatus client ⟨loop, ⟨device, []⟩⟩) := by
  have start : SetpointsKept (World.mk loop (Bus.mk device [])) :=
    ⟨by simp [lastSetpoint], by simp [lastSetpoint]⟩
  have nothing : PollFaithful client
      (World.mk loop (Bus.mk device [])) :=
    ⟨by simp [lastSetpoint], by simp [lastSetpoint]⟩
  have polled := start.readStatus client {} nothing
  simp only [publishInitialStatus]
  split_ifs
  · exact polled.emit fun _ => rfl
  · exact polled

end

/--
In a run whose writes are all accepted, the saved targets represent the last
commanded setpoints at every point, and every mode 3 command writes exactly
these, if and only if no poll made before the first complete one reads another
value from a target register than the setpoint commanded for it.
-/
theorem setpoints_safe_iff {Device : Type} (client : IModbusClient Device)
    (accepts : ∀ address value device,
      (client.writeRegister address value device).1 = true)
    (loop : ControlLoop) (device : Device)
    (batches : List (List Command)) :
    let start :=
      publishInitialStatus client
        { loop := loop, bus := { device := device, history := [] } }
    (∀ earlier batch later, batches = earlier ++ batch :: later →
      SetpointsSafe client batch (iterations client earlier start)) ↔
      ∀ earlier batch later, batches = earlier ++ batch :: later →
        PollFaithful client
          (processCommands client batch
            (iterations client earlier start)) := by
  intro start
  constructor
  · intro safe earlier batch later split
    exact PollFaithful.of_kept client (safe earlier batch later split).poll
  · intro faithful earlier batch later split
    have kept : SetpointsKept (iterations client earlier start) := by
      refine foldl_invariant _ SetpointsKept
        (publishInitialStatus_kept client loop device) ?_ earlier
        (batch :: later) split
      intro before next after place reached
      exact (reached.safe client accepts
        (faithful before next after place)).iteration
    exact kept.safe client accepts (faithful earlier batch later split)

theorem setpoints_safe_iff_healthy :
    SetpointsSafe registerFile
      [{ type := .setDhwTemp, floatVal := 50 },
        { type := .setRunningMode, intVal := 2 }]
      (publishInitialStatus registerFile
        { loop := {}, bus := { device := fun _ => 0, history := [] } }) := by
  refine (setpoints_safe_iff registerFile (fun _ _ _ => rfl) {}
    (fun _ => 0) [_]).mpr ?_ [] _ [] rfl
  intro earlier batch later split
  have only : earlier = [] := by
    cases earlier with
    | nil => rfl
    | cons first rest => simp at split
  rw [only] at split ⊢
  rcases List.cons.inj split with ⟨rfl, -⟩
  have initialized :
      (processCommands registerFile
        [{ type := .setDhwTemp, floatVal := 50 },
          { type := .setRunningMode, intVal := 2 }]
        (publishInitialStatus registerFile
          { loop := {}
            bus :=
              { device := fun _ => 0
                history := [] } })).loop.savedTargetsInitialized = true := by
    decide +kernel
  constructor
  · intro fresh
    exact absurd (initialized.symm.trans fresh) (by decide)
  · intro fresh
    exact absurd (initialized.symm.trans fresh) (by decide)

/-- A device whose outdoor sensor never answers. -/
def withoutOutdoorSensor : IModbusClient RegisterFile :=
  { registerFile with
    readRegister := fun address registers =>
      if address = regOutdoorTemp then (none, registers)
      else (some (registers address), registers) }

/--
No poll is complete, so the poll after a change to mode 2 saves the minimum in
the place of the commanded 50 °C, and mode 3 restores the minimum.
-/
theorem setpoints_lost :
    let world :=
      iterations withoutOutdoorSensor
        [[{ type := .setDhwTemp, floatVal := 50 },
          { type := .setRunningMode, intVal := 2 }]]
        (publishInitialStatus withoutOutdoorSensor
          { loop := {}, bus := { device := fun _ => 0, history := [] } })
    (∀ address value device,
        (withoutOutdoorSensor.writeRegister address value device).1 =
          true) ∧
      ¬ SetpointsKept world ∧
        ¬ SetpointsRestored withoutOutdoorSensor
          { type := .setRunningMode, intVal := 3 } world := by
  intro world
  have last : lastSetpoint .setDhwTemp world.bus.history = some 50 := by
    decide +kernel
  refine ⟨fun _ _ _ => rfl, ?_, ?_⟩
  · intro kept
    exact absurd (kept.dhw 50 last) (by decide +kernel)
  · intro restored
    exact absurd (restored.dhw 50 last) (by decide +kernel)

end Windmi.Core
