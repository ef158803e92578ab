import Windmi.Core.Persistence
import Windmi.Core.WorkingModes

/-!
# Restarting the controller

A restart keeps the registers of the device and the persisted settings; the
saved targets are lost and are learned again from the first poll.  The
restarted run then resumes the uninterrupted one as far as the registers still
hold the setpoints of the user.
-/

namespace Windmi.Core

open Windmi.Library
open Windmi.Modbus

/-- A setpoint or working-mode command in its documented range. -/
structure Command.Documented (cmd : Command) : Prop where
  setpoint : cmd.SetpointInRange
  kind : cmd.type ≠ .setPriority ∧ cmd.type ≠ .setOccupancyMode
  mode : cmd.type = .setRunningMode → 0 ≤ cmd.intVal ∧ cmd.intVal ≤ 3

instance (cmd : Command) : Decidable cmd.Documented :=
  decidable_of_iff
    (cmd.SetpointInRange ∧
      (cmd.type ≠ .setPriority ∧ cmd.type ≠ .setOccupancyMode) ∧
        (cmd.type = .setRunningMode → 0 ≤ cmd.intVal ∧ cmd.intVal ≤ 3))
    ⟨fun all => ⟨all.1, all.2.1, all.2.2⟩,
      fun documented =>
        ⟨documented.setpoint, documented.kind, documented.mode⟩⟩

/-- A fresh controller on the same device, fed from the settings file. -/
def restart (settings : Settings) (stopped : World RegisterFile) :
    World RegisterFile :=
  startWorld true (persisted settings stopped.bus.history)
    stopped.bus.device

/-- The registers of a circuit agree within the tolerance of the loop. -/
def Circuit.SameTarget (circuit : Circuit)
    (first second : World RegisterFile) : Prop :=
  |rawToTemp (first.bus.device circuit.register) -
    rawToTemp (second.bus.device circuit.register)| ≤ 1 / 2

/--
The same continuation of both runs, whenever it ends both in mode 3, ends them
with the same targets.
-/
def Transparent (settings : Settings) (stopped : World RegisterFile) :
    Prop :=
  ∀ (batch : List Command) (batches : List (List Command)),
    (∀ each ∈ batch :: batches, ∀ cmd ∈ each, cmd.Documented) →
      let restarted :=
        iterations registerFile (batch :: batches) (restart settings stopped)
      let uninterrupted :=
        iterations registerFile (batch :: batches) stopped
      restarted.loop.desiredWorkingMode = 3 →
        uninterrupted.loop.desiredWorkingMode = 3 →
          dhwCircuit.SameTarget restarted uninterrupted ∧
            heatingCircuit.SameTarget restarted uninterrupted

/-- The setpoint was not overridden, or it is the minimum up to tolerance. -/
def Circuit.SurvivesRestart (circuit : Circuit) (initial : Int)
    (history : List Event) (setpoint : ℚ) : Prop :=
  circuit.state initial history = .user ∨
    |circuit.minimum - rawToTemp (tempToRaw setpoint)| ≤ 1 / 2

/-! ## Circuits whose target was polled before the first command -/

section

variable (state : TargetState)

@[simp]
theorem TargetState.override_eq_forgotten :
    state.override = .forgotten ↔ state = .forgotten := by
  cases state <;> decide

@[simp]
theorem TargetState.restore_eq_forgotten :
    state.restore = .forgotten ↔ state = .forgotten := by
  cases state <;> decide

end

/-- The account of a circuit whose setpoint cannot be forgotten any more. -/
structure Circuit.Remembers (circuit : Circuit) (initial : Int)
    (world : World RegisterFile) : Prop where
  tracks : circuit.Tracks initial world
  bounded : Bounded world.loop
  polled : (firstRead circuit.register world.bus.history).isSome
  kept : circuit.state initial world.bus.history ≠ .forgotten

section

variable {circuit : Circuit} {initial : Int} {world : World RegisterFile}

theorem processCommand_firstRead (cmd : Command) (address : Address)
    (world : World RegisterFile) :
    firstRead address (processCommand registerFile cmd world).bus.history =
      firstRead address world.bus.history :=
  (processCommand_actions registerFile world cmd).firstRead_eq address

theorem Circuit.Remembers.command (remembers : circuit.Remembers initial world)
    (governed : circuit.Governed) {cmd : Command}
    (inRange : cmd.SetpointInRange) :
    circuit.Remembers initial (processCommand registerFile cmd world) := by
  constructor
  case tracks => exact remembers.tracks.command governed inRange
  case bounded => exact remembers.bounded.processCommand registerFile inRange
  case polled =>
    rw [processCommand_firstRead]
    exact remembers.polled
  case kept =>
    have actions := processCommand_actions registerFile world cmd
    have state := (actions.state_eq circuit initial).trans
      (state_command cmd world.bus.history)
    rw [state]
    split_ifs
    · exact TargetState.noConfusion
    · simpa using remembers.kept
    · simpa using remembers.kept
    · exact remembers.kept

theorem Circuit.Remembers.commands
    (remembers : circuit.Remembers initial world)
    (governed : circuit.Governed) {batch : List Command}
    (inRange : ∀ cmd ∈ batch, cmd.SetpointInRange) :
    circuit.Remembers initial (processCommands registerFile batch world) :=
  List.foldlRecOn batch _ remembers
    fun _ previous cmd member => previous.command governed (inRange cmd member)

theorem Circuit.Remembers.poll (remembers : circuit.Remembers initial world)
    (governed : circuit.Governed) :
    circuit.Remembers initial (polledWorld world) := by
  rcases Option.isSome_iff_exists.mp remembers.polled with ⟨raw, known⟩
  have step := governed.pollStep initial world
  constructor
  case tracks => exact (remembers.tracks.poll governed).1
  case bounded => exact remembers.bounded.observe _
  case polled =>
    rw [step.first, known]
    rfl
  case kept =>
    rw [step.state, known]
    exact remembers.kept

theorem Circuit.Remembers.control
    (remembers : circuit.Remembers initial world)
    (governed : circuit.Governed) {status : StatusSnapshot}
    (polled : Polled status world.bus.device) :
    circuit.Remembers initial
      (applyControlLogic registerFile status world) := by
  have actions := applyControlLogic_actions registerFile world status
  have known : (circuit.userSetpoint world.bus.history).isSome := by
    rcases Option.isSome_iff_exists.mp remembers.polled with ⟨raw, known⟩
    rw [Circuit.userSetpoint, known]
    cases lastSetpoint circuit.setKind world.bus.history <;> rfl
  constructor
  case tracks =>
    exact (remembers.tracks.control governed remembers.bounded known polled).1
  case bounded =>
    exact remembers.bounded.applyControlLogic registerFile status
  case polled =>
    rw [actions.firstRead_eq]
    exact remembers.polled
  case kept =>
    have state := (actions.state_eq circuit initial).trans
      (state_control world.bus.history)
    rw [state]
    split_ifs
    · simpa using remembers.kept
    · exact remembers.kept

theorem Circuit.Remembers.publish (remembers : circuit.Remembers initial world)
    (status : StatusSnapshot) :
    circuit.Remembers initial (world.emit (.publish status)) where
  tracks :=
    ⟨remembers.tracks.mode, remembers.tracks.initialized,
      remembers.tracks.register, remembers.tracks.saved,
      remembers.tracks.restored, remembers.tracks.fits⟩
  bounded := remembers.bounded
  polled := remembers.polled
  kept := remembers.kept

theorem Circuit.Remembers.iteration
    (remembers : circuit.Remembers initial world)
    (governed : circuit.Governed) {batch : List Command}
    (inRange : ∀ cmd ∈ batch, cmd.SetpointInRange) :
    circuit.Remembers initial
      (Windmi.Core.iteration registerFile batch world) := by
  have polled := (remembers.commands governed inRange).poll governed
  rw [iteration_registerFile]
  exact (polled.control governed (pollFrame_polled _ _)).publish _

theorem Circuit.Remembers.iterations
    (remembers : circuit.Remembers initial world)
    (governed : circuit.Governed) {batches : List (List Command)}
    (inRange : ∀ each ∈ batches, ∀ cmd ∈ each, cmd.SetpointInRange) :
    circuit.Remembers initial
      (Windmi.Core.iterations registerFile batches world) :=
  List.foldlRecOn batches _ remembers
    fun _ previous batch member =>
      previous.iteration governed (inRange batch member)

/-- The initial poll comes before any command. -/
theorem Circuit.Governed.remembers_start (governed : circuit.Governed)
    (settings : Settings) (registers : RegisterFile) :
    circuit.Remembers settings.workingMode
      (startWorld true settings registers) := by
  let fresh : World RegisterFile := ⟨settings.loop, ⟨registers, []⟩⟩
  have tracks : circuit.Tracks settings.workingMode fresh :=
    circuit.tracks_fresh settings.loop registers rfl
  have bounded : Bounded fresh.loop := bounded_setInitialSettings _ _ _ _
  have step := governed.pollStep settings.workingMode fresh
  have polled : circuit.Remembers settings.workingMode
      (polledWorld fresh) := by
    constructor
    case tracks => exact (tracks.poll governed).1
    case bounded => exact bounded.observe _
    case polled =>
      rw [step.first]
      rfl
    case kept =>
      rw [step.state]
      exact TargetState.noConfusion
  have start : startWorld true settings registers = _ :=
    publishInitialStatus_registerFile fresh
  rw [start]
  exact polled.publish _

/-- In mode 3 the register holds the setpoint of the user. -/
theorem Circuit.Remembers.register
    (remembers : circuit.Remembers initial world)
    (both : world.loop.desiredWorkingMode = 3) {setpoint : ℚ}
    (found : circuit.userSetpoint world.bus.history = some setpoint) :
    world.bus.device circuit.register = tempToRaw setpoint := by
  have three := remembers.tracks.mode.symm.trans both
  rw [remembers.tracks.register setpoint found]
  cases known : circuit.state initial world.bus.history with
  | user => rfl
  | overridden => exact absurd known (remembers.tracks.restored three)
  | forgotten => exact absurd known remembers.kept

end

/-! ## The restarted run resumes the uninterrupted one -/

/--
What the restarted run knows of a setpoint: the commands since the restart, and
before them the word which the initial poll found.
-/
structure Circuit.Resumes (circuit : Circuit)
    (stopped restarted uninterrupted : World RegisterFile) : Prop where
  commanded : lastSetpoint circuit.setKind uninterrupted.bus.history =
    (lastSetpoint circuit.setKind restarted.bus.history).or
      (lastSetpoint circuit.setKind stopped.bus.history)
  found : firstRead circuit.register restarted.bus.history =
    some (stopped.bus.device circuit.register)

theorem iteration_lastSetpoint (batch : List Command) (kind : CommandType)
    (world : World RegisterFile) :
    lastSetpoint kind (iteration registerFile batch world).bus.history =
      lastSetpoint kind
        (processCommands registerFile batch world).bus.history := by
  let commanded := processCommands registerFile batch world
  have polled : lastSetpoint kind (polledWorld commanded).bus.history =
      lastSetpoint kind commanded.bus.history := by
    have read : lastSetpoint kind
        (readStatus registerFile {} commanded).world.bus.history =
          lastSetpoint kind commanded.bus.history :=
      readStatus_lastSetpoint registerFile {} kind
    rwa [readStatus_registerFile] at read
  have controlled := (applyControlLogic_actions registerFile
    (polledWorld commanded) (polledStatus commanded)).lastSetpoint_eq kind
      fun event action => action.setpoint kind
  rw [iteration_registerFile]
  exact controlled.trans polled

section

variable {circuit : Circuit} {stopped restarted uninterrupted :
  World RegisterFile}

theorem Circuit.Resumes.command
    (resumes : circuit.Resumes stopped restarted uninterrupted)
    (cmd : Command) :
    circuit.Resumes stopped (processCommand registerFile cmd restarted)
      (processCommand registerFile cmd uninterrupted) := by
  constructor
  · rw [processCommand_lastSetpoint, processCommand_lastSetpoint]
    split_ifs
    · rfl
    · exact resumes.commanded
  · rw [processCommand_firstRead]
    exact resumes.found

theorem Circuit.Resumes.commands
    (resumes : circuit.Resumes stopped restarted uninterrupted)
    (batch : List Command) :
    circuit.Resumes stopped (processCommands registerFile batch restarted)
      (processCommands registerFile batch uninterrupted) := by
  induction batch generalizing restarted uninterrupted with
  | nil => exact resumes
  | cons cmd batch ih => exact ih (resumes.command cmd)

theorem Circuit.Resumes.iteration
    (resumes : circuit.Resumes stopped restarted uninterrupted)
    (governed : circuit.Governed) (batch : List Command) :
    circuit.Resumes stopped
      (Windmi.Core.iteration registerFile batch restarted)
      (Windmi.Core.iteration registerFile batch uninterrupted) := by
  have commanded := resumes.commands batch
  constructor
  · rw [iteration_lastSetpoint, iteration_lastSetpoint]
    exact commanded.commanded
  · let polled := polledWorld (processCommands registerFile batch restarted)
    have step := governed.pollStep 0
      (processCommands registerFile batch restarted)
    have actions := (applyControlLogic_actions registerFile polled
      (polledStatus (processCommands registerFile batch restarted))).firstRead_eq
        circuit.register
    rw [iteration_registerFile]
    refine actions.trans (step.first.trans ?_)
    rw [commanded.found]
    rfl

theorem Circuit.Resumes.iterations
    (resumes : circuit.Resumes stopped restarted uninterrupted)
    (governed : circuit.Governed) (batches : List (List Command)) :
    circuit.Resumes stopped
      (Windmi.Core.iterations registerFile batches restarted)
      (Windmi.Core.iterations registerFile batches uninterrupted) := by
  induction batches generalizing restarted uninterrupted with
  | nil => exact resumes
  | cons batch batches ih => exact ih (resumes.iteration governed batch)

end

/-- What the initial poll of the restarted run makes of a circuit. -/
theorem Circuit.Governed.restartStep {circuit : Circuit}
    (governed : circuit.Governed) (initial : Int) (settings : Settings)
    (stopped : World RegisterFile) :
    circuit.PollStep initial
      ⟨(persisted settings stopped.bus.history).loop,
        ⟨stopped.bus.device, []⟩⟩
      (restart settings stopped) := by
  have step := governed.pollStep initial
    ⟨(persisted settings stopped.bus.history).loop,
      ⟨stopped.bus.device, []⟩⟩
  have polled : restart settings stopped = _ :=
    publishInitialStatus_registerFile _
  rw [polled]
  exact ⟨step.device, step.desired, step.initialized, step.saved, step.first,
    step.last, step.mode, step.state⟩

theorem Circuit.Governed.restart_lastSetpoint {circuit : Circuit}
    (governed : circuit.Governed) (settings : Settings)
    (stopped : World RegisterFile) :
    lastSetpoint circuit.setKind (restart settings stopped).bus.history =
      none :=
  (governed.restartStep 0 settings stopped).last

/-- The initial poll of the restarted run finds what the device holds. -/
theorem Circuit.Governed.resumes_restart {circuit : Circuit}
    (governed : circuit.Governed) (settings : Settings)
    (stopped : World RegisterFile) :
    circuit.Resumes stopped (restart settings stopped) stopped := by
  constructor
  · rw [governed.restart_lastSetpoint]
    rfl
  · exact (governed.restartStep 0 settings stopped).first

/-! ## When a restart is transparent -/

/-- A circuit after the same continuation of both runs. -/
structure Circuit.Resumed (circuit : Circuit) (initial persistedMode : Int)
    (stopped restarted uninterrupted : World RegisterFile) : Prop where
  governed : circuit.Governed
  before : circuit.Remembers initial stopped
  fresh : circuit.Remembers persistedMode restarted
  running : circuit.Remembers initial uninterrupted
  resumes : circuit.Resumes stopped restarted uninterrupted
  restartedBoth : restarted.loop.desiredWorkingMode = 3
  uninterruptedBoth : uninterrupted.loop.desiredWorkingMode = 3

section

variable {circuit : Circuit} {initial persistedMode : Int}
  {stopped restarted uninterrupted : World RegisterFile}

/-- A setpoint commanded since the restart is in force in both runs. -/
theorem Circuit.Resumed.register_eq
    (resumed : circuit.Resumed initial persistedMode stopped restarted
      uninterrupted) {setpoint : ℚ}
    (since : lastSetpoint circuit.setKind restarted.bus.history =
      some setpoint) :
    restarted.bus.device circuit.register =
      uninterrupted.bus.device circuit.register := by
  have restartedFound : circuit.userSetpoint restarted.bus.history =
      some setpoint := by
    rw [Circuit.userSetpoint, since]
    rfl
  have uninterruptedFound :
      circuit.userSetpoint uninterrupted.bus.history = some setpoint := by
    rw [Circuit.userSetpoint, resumed.resumes.commanded, since]
    rfl
  rw [resumed.fresh.register resumed.restartedBoth restartedFound,
    resumed.running.register resumed.uninterruptedBoth
      uninterruptedFound]

/-- Without one the restarted run keeps what it found in the register. -/
theorem Circuit.Resumed.sameTarget_iff
    (resumed : circuit.Resumed initial persistedMode stopped restarted
      uninterrupted) {setpoint : ℚ}
    (commanded : lastSetpoint circuit.setKind stopped.bus.history =
      some setpoint)
    (since : lastSetpoint circuit.setKind restarted.bus.history = none) :
    circuit.SameTarget restarted uninterrupted ↔
      circuit.SurvivesRestart initial stopped.bus.history setpoint := by
  have stoppedFound : circuit.userSetpoint stopped.bus.history =
      some setpoint := by
    rw [Circuit.userSetpoint, commanded]
    rfl
  have restartedFound : circuit.userSetpoint restarted.bus.history =
      some (rawToTemp (stopped.bus.device circuit.register)) := by
    rw [Circuit.userSetpoint, since, resumed.resumes.found]
    rfl
  have uninterruptedFound :
      circuit.userSetpoint uninterrupted.bus.history = some setpoint := by
    rw [Circuit.userSetpoint, resumed.resumes.commanded, since, commanded]
    rfl
  rw [Circuit.SameTarget, Circuit.SurvivesRestart,
    resumed.fresh.register resumed.restartedBoth restartedFound,
    resumed.running.register resumed.uninterruptedBoth
      uninterruptedFound,
    tempToRaw_rawToTemp,
    resumed.before.tracks.register setpoint stoppedFound]
  cases known : circuit.state initial stopped.bus.history with
  | user => simp [Circuit.heldWord]
  | overridden => simp [Circuit.heldWord, resumed.governed.minimum]
  | forgotten => exact absurd known resumed.before.kept

theorem Circuit.Resumed.sameTarget
    (resumed : circuit.Resumed initial persistedMode stopped restarted
      uninterrupted) {setpoint : ℚ}
    (commanded : lastSetpoint circuit.setKind stopped.bus.history =
      some setpoint)
    (survives :
      circuit.SurvivesRestart initial stopped.bus.history setpoint) :
    circuit.SameTarget restarted uninterrupted := by
  cases since : lastSetpoint circuit.setKind restarted.bus.history with
  | none => exact (resumed.sameTarget_iff commanded since).mpr survives
  | some newer =>
      rw [Circuit.SameTarget, resumed.register_eq since]
      simp

end

/-- Both runs of a circuit, up to the demand for mode 3. -/
theorem Circuit.Remembers.resumed {circuit : Circuit} {settings : Settings}
    {stopped : World RegisterFile}
    (before : circuit.Remembers settings.workingMode stopped)
    (governed : circuit.Governed) {batches : List (List Command)}
    (inRange : ∀ each ∈ batches, ∀ cmd ∈ each, cmd.SetpointInRange)
    (restartedBoth :
      (Windmi.Core.iterations registerFile batches
        (restart settings stopped)).loop.desiredWorkingMode = 3)
    (uninterruptedBoth :
      (Windmi.Core.iterations registerFile batches
        stopped).loop.desiredWorkingMode = 3) :
    circuit.Resumed settings.workingMode
      (persisted settings stopped.bus.history).workingMode stopped
      (Windmi.Core.iterations registerFile batches (restart settings stopped))
      (Windmi.Core.iterations registerFile batches stopped) where
  governed := governed
  before := before
  fresh := (governed.remembers_start _ _).iterations governed inRange
  running := before.iterations governed inRange
  resumes := (governed.resumes_restart settings stopped).iterations governed
    batches
  restartedBoth := restartedBoth
  uninterruptedBoth := uninterruptedBoth

def selectBoth : Command := { type := .setRunningMode, intVal := 3 }

theorem selectBoth_documented :
    ∀ each ∈ [[selectBoth]], ∀ cmd ∈ each, cmd.Documented := by
  decide +kernel

theorem selectBoth_desired (world : World RegisterFile) :
    (iterations registerFile
      [[selectBoth]] world).loop.desiredWorkingMode = 3 := by
  have after : iterations registerFile [[selectBoth]] world =
      iteration registerFile [selectBoth] world :=
    rfl
  have commanded : (processCommands registerFile [selectBoth]
      world).loop.desiredWorkingMode = 3 :=
    processCommand_desired registerFile world selectBoth
  rcases iteration_loop [selectBoth] world with ⟨dhw, heating, equal⟩
  rw [after, equal]
  exact (observe_desiredWorkingMode _ _).trans commanded

/-- Selecting mode 3 sets no setpoint. -/
theorem selectBoth_lastSetpoint {circuit : Circuit}
    (governed : circuit.Governed) (world : World RegisterFile) :
    lastSetpoint circuit.setKind
        (iterations registerFile [[selectBoth]] world).bus.history =
      lastSetpoint circuit.setKind world.bus.history := by
  have after : iterations registerFile [[selectBoth]] world =
      iteration registerFile [selectBoth] world :=
    rfl
  have commanded : processCommands registerFile [selectBoth] world =
      processCommand registerFile selectBoth world :=
    rfl
  rw [after, iteration_lastSetpoint, commanded, processCommand_lastSetpoint]
  exact if_neg fun equal => governed.notMode equal.symm

/-- Right after the restart mode 3 shows what it has learned. -/
theorem Circuit.Remembers.survives {circuit : Circuit} {settings : Settings}
    {stopped : World RegisterFile}
    (before : circuit.Remembers settings.workingMode stopped)
    (governed : circuit.Governed) {setpoint : ℚ}
    (commanded : lastSetpoint circuit.setKind stopped.bus.history =
      some setpoint)
    (same : circuit.SameTarget
      (Windmi.Core.iterations registerFile [[selectBoth]]
        (restart settings stopped))
      (Windmi.Core.iterations registerFile [[selectBoth]] stopped)) :
    circuit.SurvivesRestart settings.workingMode stopped.bus.history
      setpoint := by
  have inRange : ∀ each ∈ [[selectBoth]], ∀ cmd ∈ each,
      cmd.SetpointInRange :=
    fun each member cmd inside =>
      (selectBoth_documented each member cmd inside).setpoint
  have resumed := before.resumed governed inRange
    (selectBoth_desired (restart settings stopped))
    (selectBoth_desired stopped)
  have since : lastSetpoint circuit.setKind
      (Windmi.Core.iterations registerFile [[selectBoth]]
        (restart settings stopped)).bus.history = none := by
    rw [selectBoth_lastSetpoint governed]
    exact governed.restart_lastSetpoint settings stopped
  exact (resumed.sameTarget_iff commanded since).mp same

/--
Stopped after a failure-free run, a restart is transparent to the setpoints
which were commanded if and only if neither of them was overridden at the stop,
up to the tolerance.
-/
theorem restart_transparent_iff (settings : Settings)
    (registers : RegisterFile) (batches : List (List Command))
    (documented : ∀ batch ∈ batches, ∀ cmd ∈ batch, cmd.Documented)
    (dhw heating : ℚ) :
    let stopped :=
      iterations registerFile batches (startWorld true settings registers)
    lastSetpoint .setDhwTemp stopped.bus.history = some dhw →
      lastSetpoint .setHeatingTemp stopped.bus.history = some heating →
        (Transparent settings stopped ↔
          dhwCircuit.SurvivesRestart settings.workingMode
              stopped.bus.history dhw ∧
            heatingCircuit.SurvivesRestart settings.workingMode
              stopped.bus.history heating) := by
  intro stopped dhwCommanded heatingCommanded
  have before : ∀ circuit : Circuit, circuit.Governed →
      circuit.Remembers settings.workingMode stopped := by
    intro circuit governed
    exact (governed.remembers_start settings registers).iterations governed
      fun batch member cmd inside =>
        (documented batch member cmd inside).setpoint
  have dhwBefore := before dhwCircuit dhwCircuit_governed
  have heatingBefore := before heatingCircuit heatingCircuit_governed
  constructor
  case mp =>
    intro transparent
    rcases transparent [selectBoth] [] selectBoth_documented
      (selectBoth_desired (restart settings stopped))
      (selectBoth_desired stopped) with ⟨dhwSame, heatingSame⟩
    exact
      ⟨dhwBefore.survives dhwCircuit_governed dhwCommanded dhwSame,
        heatingBefore.survives heatingCircuit_governed heatingCommanded
          heatingSame⟩
  case mpr =>
    rintro ⟨dhwSurvives, heatingSurvives⟩ batch more documentedLater
    intro restarted uninterrupted restartedBoth uninterruptedBoth
    have inRange : ∀ each ∈ batch :: more, ∀ cmd ∈ each,
        cmd.SetpointInRange :=
      fun each member cmd inside =>
        (documentedLater each member cmd inside).setpoint
    exact
      ⟨(dhwBefore.resumed dhwCircuit_governed inRange restartedBoth
          uninterruptedBoth).sameTarget dhwCommanded dhwSurvives,
        (heatingBefore.resumed heatingCircuit_governed inRange restartedBoth
          uninterruptedBoth).sameTarget heatingCommanded heatingSurvives⟩

/-- DHW 50 °C and heating 45 °C, and then heating alone. -/
def setpointsThenHeatingOnly : List (List Command) :=
  [[{ type := .setDhwTemp, floatVal := 50 },
    { type := .setHeatingTemp, floatVal := 45 },
    { type := .setRunningMode, intVal := 2 }]]

def stoppedInHeatingOnly : World RegisterFile :=
  iterations registerFile setpointsThenHeatingOnly
    (startWorld true defaultSettings fun _ => 0)

theorem restart_transparent_iff_heatingOnly :
    Transparent defaultSettings stoppedInHeatingOnly ↔
      dhwCircuit.SurvivesRestart 3 stoppedInHeatingOnly.bus.history 50 ∧
        heatingCircuit.SurvivesRestart 3 stoppedInHeatingOnly.bus.history
          45 :=
  restart_transparent_iff _ (fun _ => 0) setpointsThenHeatingOnly
    (by decide +kernel) 50 45 (by decide +kernel) (by decide +kernel)

/-- The restarted controller takes the minimum for the user's setpoint. -/
theorem restart_forgets_dhw :
    (∀ batch ∈ setpointsThenHeatingOnly, ∀ cmd ∈ batch, cmd.Documented) ∧
      lastSetpoint .setDhwTemp stoppedInHeatingOnly.bus.history = some 50 ∧
        lastSetpoint .setHeatingTemp stoppedInHeatingOnly.bus.history =
          some 45 ∧
          ¬ Transparent defaultSettings stoppedInHeatingOnly := by
  refine ⟨by decide +kernel, by decide +kernel, by decide +kernel, ?_⟩
  intro transparent
  have same := transparent [selectBoth] [] selectBoth_documented
    (by decide +kernel) (by decide +kernel)
  have apart : ¬ dhwCircuit.SameTarget
      (iterations registerFile [[selectBoth]]
        (restart defaultSettings stoppedInHeatingOnly))
      (iterations registerFile [[selectBoth]] stoppedInHeatingOnly) := by
    unfold Circuit.SameTarget
    decide +kernel
  exact apart same.1

end Windmi.Core
