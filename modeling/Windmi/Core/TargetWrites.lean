import Windmi.Core.Circuits
import Windmi.Library.History
import Windmi.Library.Runs

/-!
# Which values reach a target register

A write to a target register carries the setpoint of the command popped last,
the minimum of the circuit or, in mode 3, its saved target.  Whether a run
obeys a policy about the written values is decided where it restores a saved
target.
-/

namespace Windmi.Core

open Windmi.Library
open Windmi.Modbus

variable {Device : Type}

/-- Neither a setpoint command of the circuit nor a read. -/
def Circuit.Neutral (circuit : Circuit) : Event → Prop
  | .command cmd => cmd.type ≠ circuit.setKind
  | .read .. => False
  | _ => True

theorem Event.IsAction.neutral {event : Event} (action : event.IsAction)
    (circuit : Circuit) : circuit.Neutral event := by
  cases event with
  | command cmd => exact action.elim
  | read address outcome => exact action.elim
  | _ => trivial

theorem Event.OfControl.neutral {event : Event} (control : event.OfControl)
    (circuit : Circuit) : circuit.Neutral event := by
  rcases control with action | rfl
  · exact action.neutral circuit
  · trivial

/--
Which values may be written to the target register, given the events before:
always the minimum, and otherwise as setpoint commands and reads decide.
-/
structure WritePolicy (circuit : Circuit) where
  allows : List Event → Word → Prop
  steady : ∀ event, circuit.Neutral event → ∀ earlier value,
    allows (event :: earlier) value ↔ allows earlier value
  minimum : ∀ earlier, allows earlier (tempToRaw circuit.minimum)

/-- The command writes the saved targets. -/
structure Command.Restores (client : IModbusClient Device) (cmd : Command)
    (world : World Device) : Prop where
  isMode : cmd.type = .setRunningMode
  both : cmd.intVal = 3
  accepted : world.accepts client regRunningMode 2 = true

/-- Wherever the iteration restores the saved target, the world is vetted. -/
structure Circuit.RestoresOnly (circuit : Circuit)
    (client : IModbusClient Device) (vetted : World Device → Prop)
    (batch : List Command) (world : World Device) : Prop where
  commands : Throughout
    (fun world cmd => processCommand client cmd world)
    (fun world cmd => cmd.Restores client world → vetted world) world batch
  control :
    let poll := readStatus client {} (processCommands client batch world)
    poll.ok = true → circuit.Restores poll.status poll.world.loop →
      vetted poll.world

namespace WritePolicy

variable {circuit : Circuit} (policy : WritePolicy circuit)

def Admits (event : Event) (earlier : List Event) : Prop :=
  match event with
  | .write address value _ _ =>
      address = circuit.register → policy.allows earlier value
  | _ => True

/-- Every write to the target register was allowed. -/
def Obeyed (world : World Device) : Prop :=
  Lawful policy.Admits world.bus.history

/-- The policy allows the saved target. -/
def AllowsSaved (world : World Device) : Prop :=
  policy.allows world.bus.history (tempToRaw (circuit.saved world.loop))

/-- A step keeps the policy under a condition. -/
def KeptIf (condition : Prop) (before after : World Device) : Prop :=
  policy.Obeyed after ↔ policy.Obeyed before ∧ condition

section

variable {policy} {condition other : Prop}
  {first second third : World Device}

theorem KeptIf.refl (world : World Device) :
    policy.KeptIf True world world :=
  (and_iff_left trivial).symm

theorem KeptIf.trans (before : policy.KeptIf condition first second)
    (after : policy.KeptIf other second third) :
    policy.KeptIf (condition ∧ other) first third := by
  unfold KeptIf at *
  rw [after, before, and_assoc]

theorem KeptIf.congr (kept : policy.KeptIf condition first second)
    (same : condition ↔ other) : policy.KeptIf other first second := by
  unfold KeptIf at *
  rw [kept, same]

/-- Steps that need no permission. -/
theorem KeptIf.andThen (before : policy.KeptIf True first second)
    (after : policy.KeptIf condition second third) :
    policy.KeptIf condition first third :=
  (before.trans after).congr (and_iff_right trivial)

theorem KeptIf.afterwards (before : policy.KeptIf condition first second)
    (after : policy.KeptIf True second third) :
    policy.KeptIf condition first third :=
  (before.trans after).congr (and_iff_left trivial)

theorem KeptIf.ite {guard : Prop} [Decidable guard]
    (kept : policy.KeptIf condition first second) :
    policy.KeptIf (guard → condition) first
      (if guard then second else first) := by
  split
  case isTrue holds => exact kept.congr (imp_iff_right holds).symm
  case isFalse fails =>
    exact (KeptIf.refl first).congr
      (iff_of_true trivial fun holds => absurd holds fails)

/-- What follows a write depends on its success, but is always allowed. -/
theorem KeptIf.followedBy {guard : Prop} [Decidable guard]
    (kept : policy.KeptIf condition first second)
    (follows : policy.KeptIf True second third) :
    policy.KeptIf condition first (if guard then third else second) := by
  split
  · exact kept.afterwards follows
  · exact kept

end

/-! ## Writers -/

theorem allows_of_adds {newer : Event → Prop} {first second : World Device}
    (adds : Adds newer first second)
    (neutral : ∀ event, newer event → circuit.Neutral event) (value : Word) :
    policy.allows second.bus.history value ↔
      policy.allows first.bus.history value := by
  rcases adds with ⟨events, equal, all⟩
  rw [equal]
  clear equal
  induction events with
  | nil => rfl
  | cons event events ih =>
      have head := policy.steady event
        (neutral event (all event (List.mem_cons_self ..)))
        (events ++ first.bus.history) value
      exact head.trans
        (ih fun inner member => all inner (List.mem_cons_of_mem _ member))

theorem keptIf_emit (world : World Device) {event : Event}
    (silent : ∀ earlier, policy.Admits event earlier) :
    policy.KeptIf True world (world.emit event) := by
  unfold KeptIf Obeyed
  simp only [World.emit, lawful_cons, silent, true_and, and_true]

theorem keptIf_control (world : World Device) :
    policy.KeptIf True world (world.emit .control) :=
  policy.keptIf_emit world fun _ => trivial

theorem keptIf_publish (world : World Device) (status : StatusSnapshot) :
    policy.KeptIf True world (world.emit (.publish status)) :=
  policy.keptIf_emit world fun _ => trivial

theorem keptIf_updateLoop (world : World Device)
    (update : ControlLoop → ControlLoop) :
    policy.KeptIf True world (world.updateLoop update) :=
  KeptIf.refl world

theorem keptIf_persisted (world : World Device)
    (update : ControlLoop → ControlLoop) :
    policy.KeptIf True world
      (world.updateLoop update).fireSettingsCallback :=
  policy.keptIf_emit (world.updateLoop update) fun _ => trivial

variable (client : IModbusClient Device) (world : World Device)

theorem keptIf_writeRegister (address : Address) (value : Word) :
    policy.KeptIf
      (address = circuit.register → policy.allows world.bus.history value)
      world (world.writeRegister client address value).2 :=
  and_comm

theorem keptIf_writeOther {address : Address} (value : Word)
    (different : address ≠ circuit.register) :
    policy.KeptIf True world
      (world.writeRegister client address value).2 :=
  (policy.keptIf_writeRegister client world address value).congr
    (iff_of_true (fun same => absurd same different) trivial)

theorem keptIf_setDhwTarget (temp : ℚ) :
    policy.KeptIf
      (regDhwTarget = circuit.register →
        policy.allows world.bus.history (tempToRaw temp))
      world (setDhwTarget client temp world).2 := by
  rw [setDhwTarget_world]
  exact (policy.keptIf_writeRegister client world _ _).followedBy
    (policy.keptIf_persisted _ _)

theorem keptIf_setHeatingTarget (temp : ℚ) :
    policy.KeptIf
      (regHeatingTarget = circuit.register →
        policy.allows world.bus.history (tempToRaw temp))
      world (setHeatingTarget client temp world).2 := by
  rw [setHeatingTarget_world]
  exact (policy.keptIf_writeRegister client world _ _).followedBy
    (policy.keptIf_persisted _ _)

theorem keptIf_setRunningMode (mode : Int)
    (different : regRunningMode ≠ circuit.register) :
    policy.KeptIf True world (setRunningMode client mode world).2 := by
  simp only [setRunningMode]
  split_ifs
  · exact KeptIf.refl world
  · exact policy.keptIf_writeOther client world _ different
  · exact policy.keptIf_writeOther client world _ different

theorem keptIf_writePriority (value : Word) (priority : PriorityMode)
    (different : regDhwPriority ≠ circuit.register) :
    policy.KeptIf True world
      (writePriority client value priority world).2 := by
  rw [writePriority_world]
  exact (policy.keptIf_writeOther client world value different).followedBy
    (policy.keptIf_updateLoop _ _)

/-! ## Both circuits -/

variable (member : circuit ∈ [dhwCircuit, heatingCircuit])

include member

/-- Restoring both targets restores that of the circuit. -/
theorem keptIf_restoreBoth :
    let dhw := (setDhwTarget client world.loop.savedDhwTarget world).2
    policy.KeptIf (policy.AllowsSaved world) world
      (setHeatingTarget client dhw.loop.savedHeatingTarget dhw).2 := by
  intro dhw
  have first := policy.keptIf_setDhwTarget client world
    world.loop.savedDhwTarget
  have second := policy.keptIf_setHeatingTarget client dhw
    dhw.loop.savedHeatingTarget
  rcases Circuit.dhw_or_heating member with rfl | rfl
  · have other : regHeatingTarget ≠ dhwCircuit.register := by decide
    refine (first.trans second).congr ?_
    constructor
    · exact fun both => both.1 rfl
    · exact fun allowed => ⟨fun _ => allowed, fun same => absurd same other⟩
  · have other : regDhwTarget ≠ heatingCircuit.register := by decide
    have adds := setDhwTarget_adds client world world.loop.savedDhwTarget
    have saved : dhw.loop.savedHeatingTarget =
        world.loop.savedHeatingTarget := by
      rcases setDhwTarget_loop client world world.loop.savedDhwTarget with
        ⟨_, equal⟩
      rw [equal]
    have steady := policy.allows_of_adds adds
      (fun event action => action.neutral heatingCircuit)
      (tempToRaw dhw.loop.savedHeatingTarget)
    refine (first.trans second).congr ?_
    rw [steady, saved]
    constructor
    · exact fun both => both.2 rfl
    · exact fun allowed => ⟨fun same => absurd same other, fun _ => allowed⟩

theorem keptIf_dhwMinimum :
    policy.KeptIf True world (setDhwTarget client dhwTargetMin world).2 := by
  refine (policy.keptIf_setDhwTarget client world dhwTargetMin).congr
    (iff_of_true ?_ trivial)
  rcases Circuit.dhw_or_heating member with rfl | rfl
  · exact fun _ => policy.minimum _
  · exact fun same => absurd same (by decide)

theorem keptIf_heatingMinimum :
    policy.KeptIf True world
      (setHeatingTarget client heatingTargetMin world).2 := by
  refine (policy.keptIf_setHeatingTarget client world
    heatingTargetMin).congr (iff_of_true ?_ trivial)
  rcases Circuit.dhw_or_heating member with rfl | rfl
  · exact fun same => absurd same (by decide)
  · exact fun _ => policy.minimum _

theorem keptIf_overrideTargets (mode : Int) :
    policy.KeptIf (mode = 3 → policy.AllowsSaved world) world
      (overrideTargets client mode world) := by
  rcases Circuit.register_ne member with ⟨-, priority, -⟩
  unfold overrideTargets
  split
  · refine ((policy.keptIf_heatingMinimum client world member).afterwards
      (policy.keptIf_writePriority client _ _ _ priority)).congr ?_
    exact (iff_of_true (fun three => absurd three (by decide)) trivial).symm
  · refine ((policy.keptIf_dhwMinimum client world member).afterwards
      (policy.keptIf_writePriority client _ _ _ priority)).congr ?_
    exact (iff_of_true (fun three => absurd three (by decide)) trivial).symm
  · exact ((policy.keptIf_restoreBoth client world member).afterwards
      (policy.keptIf_writePriority client _ _ _ priority)).congr
        (imp_iff_right rfl).symm
  case h_4 other =>
    exact (KeptIf.refl world).congr
      (iff_of_true trivial fun three => absurd three other)

/-! ## Commands -/

omit member in
theorem keptIf_command (cmd : Command) :
    policy.KeptIf True world (world.emit (.command cmd)) :=
  policy.keptIf_emit world fun _ => trivial

omit member in
theorem setRunningMode_accepts :
    (setRunningMode client 2 world).1 = 0 ↔
      world.accepts client regRunningMode 2 = true := by
  let attempt := world.writeRegister client regRunningMode 2
  have written : setRunningMode client 2 world =
      if attempt.1 then (0, attempt.2) else (-1, attempt.2) :=
    if_neg (by decide)
  rw [written]
  split
  case isTrue yes => exact iff_of_true rfl yes
  case isFalse no =>
    have failed : (-1 : Int) ≠ 0 := by decide
    exact iff_of_false failed no

/-- A mode command restores the targets if its mode is 3 and gets through. -/
theorem keptIf_processSetRunningMode {cmd : Command}
    (isMode : cmd.type = .setRunningMode) :
    policy.KeptIf (cmd.Restores client world → policy.AllowsSaved world)
      world
      (processSetRunningMode client cmd.intVal
        (world.emit (.command cmd))) := by
  rcases Circuit.register_ne member with ⟨running, -, -⟩
  let mode := targetDeviceMode cmd.intVal
  let called := ((world.emit (.command cmd)).updateLoop fun loop =>
    { loop with desiredWorkingMode := cmd.intVal }).fireSettingsCallback
  let attempt := setRunningMode client mode called
  let switched := attempt.2.updateLoop fun loop =>
    { loop with currentMode := mode }
  have calls : policy.KeptIf True world called :=
    (policy.keptIf_command world cmd).andThen (policy.keptIf_persisted _ _)
  have writes : policy.KeptIf True world attempt.2 :=
    calls.andThen (policy.keptIf_setRunningMode client called mode running)
  have notSet : cmd.type ≠ circuit.setKind := by
    rw [isMode]
    exact (Circuit.setKind_ne member).symm
  have adds : Adds circuit.Neutral called switched :=
    (setRunningMode_adds client called mode).mono
      fun event action => action.neutral circuit
  have before : Adds circuit.Neutral world called :=
    ((Adds.refl world).emit notSet).emit trivial
  have saved : circuit.saved switched.loop = circuit.saved world.loop := by
    have same : attempt.2.loop = called.loop :=
      setRunningMode_loop client called mode
    simp only [switched, World.updateLoop, same]
    rcases Circuit.dhw_or_heating member with rfl | rfl <;> rfl
  have allows : policy.AllowsSaved switched ↔ policy.AllowsSaved world := by
    unfold AllowsSaved
    rw [saved]
    exact policy.allows_of_adds (before.trans adds) (fun _ neutral => neutral)
      _
  have overridden := policy.keptIf_overrideTargets client switched member
    cmd.intVal
  have whole : processSetRunningMode client cmd.intVal
      (world.emit (.command cmd)) =
        if attempt.1 = 0 then overrideTargets client cmd.intVal switched
        else attempt.2 :=
    rfl
  have accepted : cmd.intVal = 3 →
      (attempt.1 = 0 ↔ world.accepts client regRunningMode 2 = true) := by
    intro both
    have two : attempt = setRunningMode client 2 called :=
      congrArg
        (fun value => setRunningMode client (targetDeviceMode value) called)
        both
    rw [two]
    exact setRunningMode_accepts client called
  rw [whole]
  split
  case isTrue success =>
    refine (writes.andThen overridden).congr ?_
    rw [allows]
    constructor
    · exact fun allowed restores => allowed restores.both
    · exact fun allowed both =>
        allowed ⟨isMode, both, (accepted both).mp success⟩
  case isFalse failure =>
    refine writes.congr (iff_of_true trivial ?_)
    intro restores
    exact absurd ((accepted restores.both).mpr restores.accepted) failure

/-- Setpoint commands write what they carry. -/
theorem keptIf_processCommand {cmd : Command}
    (commanded : cmd.type = circuit.setKind →
      policy.allows (.command cmd :: world.bus.history)
        (tempToRaw cmd.floatVal)) :
    policy.KeptIf (cmd.Restores client world → policy.AllowsSaved world)
      world (processCommand client cmd world) := by
  rcases Circuit.register_ne member with ⟨-, priority, occupancy⟩
  have popped := policy.keptIf_command world cmd
  have needless : cmd.type ≠ .setRunningMode →
      (True ↔ (cmd.Restores client world → policy.AllowsSaved world)) :=
    fun notMode => iff_of_true trivial
      fun restores => absurd restores.isMode notMode
  unfold processCommand
  cases kind : cmd.type with
  | setRunningMode =>
      exact policy.keptIf_processSetRunningMode client world member kind
  | setDhwTemp =>
      refine KeptIf.congr ?_ (needless (by simp [kind]))
      refine popped.andThen (KeptIf.afterwards ?_
        (policy.keptIf_updateLoop _ _))
      refine (policy.keptIf_setDhwTarget client _ _).congr
        (iff_of_true ?_ trivial)
      rcases Circuit.dhw_or_heating member with rfl | rfl
      · exact fun _ => commanded kind
      · exact fun same => absurd same (by decide)
  | setHeatingTemp =>
      refine KeptIf.congr ?_ (needless (by simp [kind]))
      refine popped.andThen (KeptIf.afterwards ?_
        (policy.keptIf_updateLoop _ _))
      refine (policy.keptIf_setHeatingTarget client _ _).congr
        (iff_of_true ?_ trivial)
      rcases Circuit.dhw_or_heating member with rfl | rfl
      · exact fun same => absurd same (by decide)
      · exact fun _ => commanded kind
  | setPriority =>
      refine KeptIf.congr ?_ (needless (by simp [kind]))
      refine popped.andThen ?_
      simp only [processSetPriority]
      exact (policy.keptIf_writePriority client _ _ _ priority).followedBy
        (policy.keptIf_emit _ fun _ => trivial)
  | setOccupancyMode =>
      refine KeptIf.congr ?_ (needless (by simp [kind]))
      exact popped.andThen (policy.keptIf_writeOther client _ _ occupancy)

/-! ## Control logic -/

omit member in
theorem keptIf_restoreDhwTarget (status : StatusSnapshot) :
    policy.KeptIf
      (Apart status.dhwTarget world.loop.savedDhwTarget →
        regDhwTarget = circuit.register →
          policy.allows world.bus.history
            (tempToRaw world.loop.savedDhwTarget))
      world (restoreDhwTarget client status world) :=
  (policy.keptIf_setDhwTarget client world _).ite

omit member in
theorem keptIf_restoreHeatingTarget (status : StatusSnapshot) :
    policy.KeptIf
      (Apart status.heatingTarget world.loop.savedHeatingTarget →
        regHeatingTarget = circuit.register →
          policy.allows world.bus.history
            (tempToRaw world.loop.savedHeatingTarget))
      world (restoreHeatingTarget client status world) :=
  (policy.keptIf_setHeatingTarget client world _).ite

theorem keptIf_restoreTargets (status : StatusSnapshot) :
    policy.KeptIf
      (Apart (circuit.reported status) (circuit.saved world.loop) →
        policy.AllowsSaved world)
      world
      (restoreHeatingTarget client status
        (restoreDhwTarget client status world)) := by
  let dhw := restoreDhwTarget client status world
  have first := policy.keptIf_restoreDhwTarget client world status
  have second := policy.keptIf_restoreHeatingTarget client dhw status
  refine (first.trans second).congr ?_
  rcases Circuit.dhw_or_heating member with rfl | rfl
  · have other : regHeatingTarget ≠ dhwCircuit.register := by decide
    rw [dhwCircuit_reported]
    constructor
    · exact fun both apart => both.1 apart rfl
    · exact fun allowed =>
        ⟨fun apart _ => allowed apart, fun _ same => absurd same other⟩
  · have other : regDhwTarget ≠ heatingCircuit.register := by decide
    have adds := restoreDhwTarget_adds client world status
    have saved : dhw.loop.savedHeatingTarget =
        world.loop.savedHeatingTarget := by
      rcases restoreDhwTarget_loop client world status with ⟨_, equal⟩
      rw [equal]
    have steady := policy.allows_of_adds adds
      (fun event action => action.neutral heatingCircuit)
      (tempToRaw dhw.loop.savedHeatingTarget)
    rw [heatingCircuit_reported, steady, saved]
    constructor
    · exact fun both apart => both.2 apart rfl
    · exact fun allowed =>
        ⟨fun _ same => absurd same other, fun apart _ => allowed apart⟩

theorem keptIf_enforceTargets (status : StatusSnapshot) :
    policy.KeptIf
      (circuit.Restores status world.loop → policy.AllowsSaved world)
      world (enforceTargets client status world) := by
  have needless : world.loop.desiredWorkingMode ≠ 3 →
      (True ↔ (circuit.Restores status world.loop →
        policy.AllowsSaved world)) :=
    fun notBoth => iff_of_true trivial
      fun restores => absurd restores.1 notBoth
  have dhw := policy.keptIf_dhwMinimum client world member
  have heating := policy.keptIf_heatingMinimum client world member
  unfold enforceTargets
  split
  case h_1 one =>
    refine KeptIf.congr ?_ (needless (by rw [one]; decide))
    split
    · exact heating
    · exact KeptIf.refl world
  case h_2 two =>
    refine KeptIf.congr ?_ (needless (by rw [two]; decide))
    split
    · exact dhw
    · exact KeptIf.refl world
  case h_3 three =>
    refine (policy.keptIf_restoreTargets client world member status).congr ?_
    constructor
    · exact fun allowed restores => allowed restores.2
    · exact fun allowed apart => allowed ⟨three, apart⟩
  case h_4 other => exact (KeptIf.refl world).congr (needless other)

theorem keptIf_correctDeviceMode :
    policy.KeptIf True world (correctDeviceMode client world) := by
  rcases Circuit.register_ne member with ⟨running, -, -⟩
  have written := fun mode =>
    policy.keptIf_setRunningMode client world mode running
  simp only [correctDeviceMode]
  split_ifs
  · exact (written _).afterwards (policy.keptIf_updateLoop _ _)
  · exact written _
  · exact KeptIf.refl world

theorem keptIf_enforcePriority :
    policy.KeptIf True world (enforcePriority client world) := by
  rcases Circuit.register_ne member with ⟨-, priority, -⟩
  have written := fun value mode =>
    policy.keptIf_writePriority client world value mode priority
  unfold enforcePriority
  split
  · split_ifs
    · exact written _ _
    · exact KeptIf.refl world
  · split_ifs
    · exact written _ _
    · exact KeptIf.refl world
  · split_ifs
    · exact written _ _
    · exact KeptIf.refl world
  · exact KeptIf.refl world

/-- The enforcement starts from what the poll and the commands left. -/
theorem keptIf_applyControlLogic (status : StatusSnapshot) :
    policy.KeptIf
      (circuit.Restores status world.loop → policy.AllowsSaved world)
      world (applyControlLogic client status world) := by
  let corrected := correctDeviceMode client (world.emit .control)
  obtain ⟨sameMode, saved⟩ : corrected.loop.desiredWorkingMode =
      world.loop.desiredWorkingMode ∧
        circuit.saved corrected.loop = circuit.saved world.loop :=
    Circuit.correctDeviceMode_keeps member client (world.emit .control)
  have adds : Adds circuit.Neutral world corrected :=
    ((Adds.refl world).emit trivial).trans
      ((correctDeviceMode_adds client _).mono
        fun event action => action.neutral circuit)
  have allows : policy.AllowsSaved corrected ↔ policy.AllowsSaved world := by
    unfold AllowsSaved
    rw [saved]
    exact policy.allows_of_adds adds (fun _ neutral => neutral) _
  have entered : policy.KeptIf True world corrected :=
    (policy.keptIf_control world).andThen
      (policy.keptIf_correctDeviceMode client _ member)
  have targets := policy.keptIf_enforceTargets client corrected member status
  refine ((entered.andThen targets).afterwards
    (policy.keptIf_enforcePriority client _ member)).congr ?_
  rw [allows, Circuit.Restores, Circuit.Restores, sameMode, saved]

/-! ## Polls, iterations and passes -/

omit member in
theorem keptIf_readStatus (status : StatusSnapshot) :
    policy.KeptIf True world (readStatus client status world).world := by
  rcases readStatus_adds client world status with ⟨newer, equal, reads⟩
  unfold KeptIf Obeyed
  rw [equal, and_true]
  clear equal
  induction newer with
  | nil => rfl
  | cons event newer ih =>
      rcases reads event (List.mem_cons_self ..) with
        ⟨address, outcome, rfl⟩
      rw [List.cons_append, lawful_cons, ih fun inner inside =>
        reads inner (List.mem_cons_of_mem _ inside)]
      exact and_iff_right trivial

/-- An iteration keeps the policy exactly if it allows what is restored. -/
theorem keptIf_iteration {batch : List Command}
    (commanded : ∀ cmd ∈ batch, cmd.type = circuit.setKind →
      ∀ earlier, policy.allows (.command cmd :: earlier)
        (tempToRaw cmd.floatVal)) :
    policy.KeptIf
      (circuit.RestoresOnly client policy.AllowsSaved batch world)
      world (iteration client batch world) := by
  let processed := processCommands client batch world
  let poll := readStatus client {} processed
  have commands : policy.KeptIf
      (Throughout (fun world cmd => processCommand client cmd world)
        (fun world cmd => cmd.Restores client world →
          policy.AllowsSaved world) world batch)
      world processed :=
    conserved_iff fun state cmd inside =>
      policy.keptIf_processCommand client state member
        fun kind => commanded cmd inside kind _
  have polled := commands.afterwards
    (policy.keptIf_readStatus client processed {})
  have concluded : policy.KeptIf
      (poll.ok = true → circuit.Restores poll.status poll.world.loop →
        policy.AllowsSaved poll.world)
      poll.world (iteration client batch world) := by
    unfold iteration concludeIteration
    split
    case isTrue ok =>
      exact ((policy.keptIf_applyControlLogic client poll.world member
        poll.status).afterwards (policy.keptIf_publish _ _)).congr
          (imp_iff_right ok).symm
    case isFalse failed =>
      exact (policy.keptIf_publish poll.world _).congr
        (iff_of_true trivial fun ok => absurd ok failed)
  refine (polled.trans concluded).congr ?_
  constructor
  · exact fun both => ⟨both.1, both.2⟩
  · exact fun only => ⟨only.commands, only.control⟩

theorem keptIf_pass {batch : List Command}
    (commanded : ∀ cmd ∈ batch, cmd.type = circuit.setKind →
      ∀ earlier, policy.allows (.command cmd :: earlier)
        (tempToRaw cmd.floatVal)) :
    policy.KeptIf
      ((connection client world).1 = true →
        circuit.RestoresOnly client policy.AllowsSaved batch
          (connection client world).2)
      world (pass client batch world) := by
  have connected : policy.KeptIf True world (connection client world).2 := by
    unfold connection
    split <;> exact KeptIf.refl world
  rw [pass_eq]
  exact connected.andThen
    (policy.keptIf_iteration client _ member commanded).ite

omit member in
theorem keptIf_publishInitialStatus :
    policy.KeptIf True world (publishInitialStatus client world) := by
  have polled := policy.keptIf_readStatus client world {}
  simp only [publishInitialStatus]
  split
  · exact polled.afterwards (policy.keptIf_publish _ _)
  · exact polled

/-- A run keeps the policy exactly if each of its iterations does. -/
theorem keptIf_runLoop {batches : List (List Command)}
    (commanded : ∀ batch ∈ batches, ∀ cmd ∈ batch,
      cmd.type = circuit.setKind →
        ∀ earlier, policy.allows (.command cmd :: earlier)
          (tempToRaw cmd.floatVal)) :
    policy.KeptIf
      (Throughout (fun world batch => pass client batch world)
        (fun world batch => (connection client world).1 = true →
          circuit.RestoresOnly client policy.AllowsSaved batch
            (connection client world).2) world batches)
      world (runLoop client batches world) :=
  conserved_iff fun state batch inside =>
    policy.keptIf_pass client state member (commanded batch inside)

end WritePolicy

end Windmi.Core
