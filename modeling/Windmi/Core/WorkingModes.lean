import Windmi.Core.SetpointAccount

/-!
# The working-mode table

Which targets are in force at the end of the iterations of a failure-free run,
and when they are the ones which the table of working modes promises.
-/

namespace Windmi.Core

open Windmi.Library
open Windmi.Modbus

/-- The register of a circuit is within half a degree of a setpoint. -/
def Circuit.InForce (circuit : Circuit) (world : World RegisterFile)
    (setpoint : ℚ) : Prop :=
  |rawToTemp (world.bus.device circuit.register) - setpoint| ≤ 1 / 2

/-- The user's setpoint was not lost, or it is close to the minimum anyway. -/
def Circuit.Unharmed (circuit : Circuit) (initial : Int)
    (history : List Event) (setpoint : ℚ) : Prop :=
  circuit.state initial history = .user ∨
    |circuit.minimum - setpoint| ≤ 1 / 2

/-- The user setpoints which the working-mode table demands. -/
structure TableHolds (world : World RegisterFile) (dhw heating : ℚ) :
    Prop where
  dhwOnly : world.loop.desiredWorkingMode = 1 →
    dhwCircuit.InForce world dhw
  heatingOnly : world.loop.desiredWorkingMode = 2 →
    heatingCircuit.InForce world heating
  both : world.loop.desiredWorkingMode = 3 →
    dhwCircuit.InForce world dhw ∧ heatingCircuit.InForce world heating

theorem Circuit.Tracks.inForce_iff {circuit : Circuit} {initial : Int}
    {world : World RegisterFile} (tracks : circuit.Tracks initial world)
    (governed : circuit.Governed) {setpoint : ℚ}
    (found : circuit.userSetpoint world.bus.history = some setpoint) :
    circuit.InForce world setpoint ↔
      circuit.Unharmed initial world.bus.history setpoint := by
  unfold Circuit.InForce Circuit.Unharmed
  rw [tracks.register setpoint found]
  cases circuit.state initial world.bus.history with
  | user =>
      have close := abs_rawToTemp_tempToRaw_sub_lt
        (tracks.fits setpoint found)
      refine iff_of_true ?_ (Or.inl rfl)
      simp only [Circuit.heldWord]
      linarith
  | overridden => simp [Circuit.heldWord, governed.minimum]
  | forgotten => simp [Circuit.heldWord, governed.minimum]

/-- Before anything happened there is no setpoint to lose. -/
theorem Circuit.tracks_fresh (circuit : Circuit) (loop : ControlLoop)
    (registers : RegisterFile)
    (fresh : loop.savedTargetsInitialized = false) :
    circuit.Tracks loop.desiredWorkingMode
      { loop := loop, bus := { device := registers, history := [] } } where
  mode := rfl
  initialized := fresh
  register := by simp [Circuit.userSetpoint, lastSetpoint, firstRead]
  saved := by simp [Circuit.userSetpoint, lastSetpoint, firstRead]
  restored := by
    intro _ overridden
    exact TargetState.noConfusion overridden
  fits := by simp [Circuit.userSetpoint, lastSetpoint, firstRead]

theorem Circuit.Tracks.publishInitialStatus {circuit : Circuit}
    {initial : Int} {world : World RegisterFile}
    (tracks : circuit.Tracks initial world) (governed : circuit.Governed) :
    circuit.Tracks initial
      (Windmi.Core.publishInitialStatus registerFile world) := by
  rcases tracks.poll governed with ⟨polled, -⟩
  rw [publishInitialStatus_registerFile]
  exact ⟨polled.mode, polled.initialized, polled.register, polled.saved,
    polled.restored, polled.fits⟩

/-- After at least one iteration every circuit is on track. -/
theorem Circuit.Tracks.iterations {circuit : Circuit} {initial : Int}
    {world : World RegisterFile} (tracks : circuit.Tracks initial world)
    (governed : circuit.Governed) (bounded : Bounded world.loop)
    (batch : List Command) (batches : List (List Command))
    (inRange : ∀ each ∈ batch :: batches, ∀ cmd ∈ each,
      cmd.SetpointInRange) :
    let after := Windmi.Core.iterations registerFile (batch :: batches) world
    circuit.Tracks initial after ∧
      (circuit.userSetpoint after.bus.history).isSome := by
  have head : ∀ cmd ∈ batch, cmd.SetpointInRange :=
    inRange batch (List.mem_cons_self ..)
  induction batches generalizing batch world with
  | nil => exact tracks.iteration governed bounded head
  | cons next batches ih =>
      have tail : ∀ each ∈ next :: batches, ∀ cmd ∈ each,
          cmd.SetpointInRange :=
        fun each member => inRange each (List.mem_cons_of_mem batch member)
      exact ih (tracks.iteration governed bounded head).1
        (bounded.iteration registerFile head) next tail
        (tail next (List.mem_cons_self ..))

/-- The start of a run: with the poll of `publishInitialStatus`, or bare. -/
def startWorld (initialPoll : Bool) (settings : Settings)
    (registers : RegisterFile) : World RegisterFile :=
  let fresh : World RegisterFile :=
    { loop := settings.loop
      bus := { device := registers, history := [] } }
  if initialPoll then publishInitialStatus registerFile fresh else fresh

/--
When the table demands a user setpoint of the mode, the circuit has kept it.
-/
structure TableUnharmed (initial : Int) (world : World RegisterFile)
    (dhw heating : ℚ) : Prop where
  dhw : world.loop.desiredWorkingMode = 1 ∨
      world.loop.desiredWorkingMode = 3 →
    dhwCircuit.Unharmed initial world.bus.history dhw
  heating : world.loop.desiredWorkingMode = 2 ∨
      world.loop.desiredWorkingMode = 3 →
    heatingCircuit.Unharmed initial world.bus.history heating

theorem Circuit.Tracks.table_iff {initial : Int}
    {world : World RegisterFile} (dhwTracks : dhwCircuit.Tracks initial world)
    (heatingTracks : heatingCircuit.Tracks initial world) {dhw heating : ℚ}
    (dhwFound : dhwCircuit.userSetpoint world.bus.history = some dhw)
    (heatingFound :
      heatingCircuit.userSetpoint world.bus.history = some heating) :
    TableHolds world dhw heating ↔
      TableUnharmed initial world dhw heating := by
  have dhwIff := dhwTracks.inForce_iff dhwCircuit_governed dhwFound
  have heatingIff :=
    heatingTracks.inForce_iff heatingCircuit_governed heatingFound
  constructor
  · intro holds
    constructor
    · rintro (one | three)
      · exact dhwIff.mp (holds.dhwOnly one)
      · exact dhwIff.mp (holds.both three).1
    · rintro (two | three)
      · exact heatingIff.mp (holds.heatingOnly two)
      · exact heatingIff.mp (holds.both three).2
  · intro unharmed
    constructor
    · intro one
      exact dhwIff.mpr (unharmed.dhw (Or.inl one))
    · intro two
      exact heatingIff.mpr (unharmed.heating (Or.inl two))
    · intro three
      exact ⟨dhwIff.mpr (unharmed.dhw (Or.inr three)),
        heatingIff.mpr (unharmed.heating (Or.inr three))⟩

/--
At the end of every iteration of a failure-free run the working-mode table
holds if and only if no setpoint which it demands was overridden since, or the
setpoint is the minimum up to half a degree.
-/
theorem working_mode_table_iff (settings : Settings)
    (registers : RegisterFile) (initialPoll : Bool) (batch : List Command)
    (batches : List (List Command))
    (inRange : ∀ each ∈ batch :: batches, ∀ cmd ∈ each,
      cmd.SetpointInRange) :
    let world :=
      iterations registerFile (batch :: batches)
        (startWorld initialPoll settings registers)
    ∃ dhw heating,
      dhwCircuit.userSetpoint world.bus.history = some dhw ∧
        heatingCircuit.userSetpoint world.bus.history = some heating ∧
          (TableHolds world dhw heating ↔
            TableUnharmed settings.workingMode world dhw heating) := by
  intro world
  have startTracks : ∀ circuit : Circuit, circuit.Governed →
      circuit.Tracks settings.workingMode
        (startWorld initialPoll settings registers) := by
    intro circuit governed
    have tracks := circuit.tracks_fresh settings.loop registers rfl
    cases initialPoll with
    | false => exact tracks
    | true => exact tracks.publishInitialStatus governed
  have startBounded :
      Bounded (startWorld initialPoll settings registers).loop := by
    have freshBounded : Bounded
        (World.mk settings.loop (Bus.mk registers [])).loop :=
      bounded_setInitialSettings _ _ _ _
    cases initialPoll with
    | false => exact freshBounded
    | true => exact freshBounded.publishInitialStatus registerFile
  rcases (startTracks dhwCircuit dhwCircuit_governed).iterations
      dhwCircuit_governed startBounded batch batches inRange with
    ⟨dhwTracks, dhwKnown⟩
  rcases (startTracks heatingCircuit heatingCircuit_governed).iterations
      heatingCircuit_governed startBounded batch batches inRange with
    ⟨heatingTracks, heatingKnown⟩
  rcases Option.isSome_iff_exists.mp dhwKnown with ⟨dhw, dhwFound⟩
  rcases Option.isSome_iff_exists.mp heatingKnown with ⟨heating, heatingFound⟩
  exact ⟨dhw, heating, dhwFound, heatingFound,
    dhwTracks.table_iff heatingTracks dhwFound heatingFound⟩

/-- DHW 50 °C, mode 2, then mode 1: the tank is kept at the minimum. -/
def afterModeTwoAndOne : World RegisterFile :=
  iterations registerFile
    [[{ type := .setDhwTemp, floatVal := 50 },
      { type := .setRunningMode, intVal := 2 }],
      [{ type := .setRunningMode, intVal := 1 }]]
    (startWorld true
      { workingMode := 3
        priority := "dhw"
        dhwTarget := 45
        heatingTarget := 40 } fun _ => 0)

theorem working_mode_table_iff_visited :
    ∃ dhw heating,
      dhwCircuit.userSetpoint afterModeTwoAndOne.bus.history = some dhw ∧
        heatingCircuit.userSetpoint afterModeTwoAndOne.bus.history =
          some heating ∧
          (TableHolds afterModeTwoAndOne dhw heating ↔
            TableUnharmed 3 afterModeTwoAndOne dhw heating) :=
  working_mode_table_iff _ (fun _ => 0) true _ [_] (by decide +kernel)

theorem working_mode_table_broken :
    dhwCircuit.userSetpoint afterModeTwoAndOne.bus.history = some 50 ∧
      ∀ heating, ¬ TableHolds afterModeTwoAndOne 50 heating := by
  constructor
  · decide +kernel
  · intro heating holds
    have one : afterModeTwoAndOne.loop.desiredWorkingMode = 1 := by
      decide +kernel
    have far : ¬ dhwCircuit.InForce afterModeTwoAndOne 50 := by
      unfold Circuit.InForce
      decide +kernel
    exact far (holds.dhwOnly one)

end Windmi.Core
