import Windmi.Core.Persistence

/-!
# When the persisted settings drift

Along a run the settings in force and the persisted ones agree at the end of
every iteration exactly if none of its iterations leaves a change of the
priority without a later callback.
-/

namespace Windmi.Core

open Windmi.Library
open Windmi.Modbus

variable {Device : Type} (client : IModbusClient Device)

/-! ## Iterations -/

/-- The poll of an iteration. -/
def iterationPoll (batch : List Command) (world : World Device) :
    Poll Device :=
  readStatus client {} (processCommands client batch world)

/-- The control logic runs after a poll that succeeds, and calls back. -/
def PollCallsBack (poll : Poll Device) : Prop :=
  poll.ok = true ∧ ControlCallsBack client poll.status poll.world

/-- The callback is called in an iteration. -/
def IterationCallsBack (batch : List Command) (world : World Device) :
    Prop :=
  Happens (fun world cmd => processCommand client cmd world)
      (CommandCallsBack client) world batch ∨
    PollCallsBack client (iterationPoll client batch world)

/--
An iteration changes the priority after its last callback: in the control
logic, or by a command which no callback follows.
-/
def SilentIteration (batch : List Command) (world : World Device) : Prop :=
  let poll := iterationPoll client batch world
  (poll.ok = true ∧ SilentControl client poll.status poll.world) ∨
    (Standing (fun world cmd => processCommand client cmd world)
        (SilentCommand client) (CommandCallsBack client) world batch ∧
      ¬ PollCallsBack client poll)

theorem processCommands_drifted_iff (initial : Settings)
    (batch : List Command) (world : World Device) :
    Drifted initial (processCommands client batch world) ↔
      Standing (fun world cmd => processCommand client cmd world)
          (SilentCommand client) (CommandCallsBack client) world batch ∨
        (Drifted initial world ∧
          ¬ Happens (fun world cmd => processCommand client cmd world)
            (CommandCallsBack client) world batch) :=
  latch_iff (processCommand_drifted_iff client initial) world batch

theorem iterationPoll_unmoved (batch : List Command) (world : World Device) :
    Unmoved (processCommands client batch world)
      (iterationPoll client batch world).world :=
  unmoved_readStatus client {} _

theorem iterationPoll_explained {initial : Settings} {world : World Device}
    (explained : Explained initial world) (batch : List Command) :
    Explained initial (iterationPoll client batch world).world := by
  refine (iterationPoll_unmoved client batch world).explained ?_
  exact List.foldlRecOn batch _ explained
    fun _ kept cmd _ => processCommand_explained client kept cmd

theorem iteration_drifted_iff {initial : Settings} {world : World Device}
    (explained : Explained initial world) (batch : List Command) :
    Drifted initial (iteration client batch world) ↔
      SilentIteration client batch world ∨
        (Drifted initial world ∧
          ¬ IterationCallsBack client batch world) := by
  have processed := processCommands_drifted_iff client initial batch world
  rw [← (iterationPoll_unmoved client batch world).drifted_iff] at processed
  have known := iterationPoll_explained client explained batch
  have poll_eq : iterationPoll client batch world =
      readStatus client {} (processCommands client batch world) := rfl
  simp only [SilentIteration, IterationCallsBack, PollCallsBack]
  unfold iteration concludeIteration
  rw [← poll_eq]
  generalize iterationPoll client batch world = poll at processed known ⊢
  split
  case isTrue ok =>
    rw [(unmoved_emit _ rfl).drifted_iff,
      applyControlLogic_drifted_iff client known, processed]
    simp only [ok, true_and]
    tauto
  case isFalse failed =>
    rw [(unmoved_emit _ rfl).drifted_iff, processed]
    simp only [failed, Bool.false_eq_true, false_and, not_false_eq_true,
      and_true, false_or, or_false]

theorem iteration_explained {initial : Settings} {world : World Device}
    (explained : Explained initial world) (batch : List Command) :
    Explained initial (iteration client batch world) := by
  have known := iterationPoll_explained client explained batch
  unfold iterationPoll at known
  unfold iteration concludeIteration
  split
  · exact (unmoved_emit _ rfl).explained
      (applyControlLogic_explained client known _)
  · exact (unmoved_emit _ rfl).explained known

/-! ## Passes -/

theorem unmoved_connection (world : World Device) :
    Unmoved world (connection client world).2 := by
  unfold connection
  split
  · exact Unmoved.refl world
  · exact ⟨fun _ => rfl, rfl⟩

def SilentPass (batch : List Command) (world : World Device) : Prop :=
  (connection client world).1 = true ∧
    SilentIteration client batch (connection client world).2

def PassCallsBack (batch : List Command) (world : World Device) : Prop :=
  (connection client world).1 = true ∧
    IterationCallsBack client batch (connection client world).2

theorem pass_drifted_iff {initial : Settings} {world : World Device}
    (explained : Explained initial world) (batch : List Command) :
    Drifted initial (pass client batch world) ↔
      SilentPass client batch world ∨
        (Drifted initial world ∧ ¬ PassCallsBack client batch world) := by
  have unmoved := unmoved_connection client world
  unfold SilentPass PassCallsBack
  rw [pass_eq]
  split
  case isTrue connected =>
    rw [iteration_drifted_iff client (unmoved.explained explained),
      unmoved.drifted_iff]
    simp only [connected, true_and]
  case isFalse disconnected =>
    rw [unmoved.drifted_iff]
    simp only [disconnected, Bool.false_eq_true, false_and,
      not_false_eq_true, and_true, false_or]

theorem pass_explained {initial : Settings} {world : World Device}
    (explained : Explained initial world) (batch : List Command) :
    Explained initial (pass client batch world) := by
  have known := (unmoved_connection client world).explained explained
  rw [pass_eq]
  split
  · exact iteration_explained client known batch
  · exact known

/-! ## Runs -/

/-- The settings file names one of the two priorities. -/
def Settings.NamesPriority (settings : Settings) : Prop :=
  settings.priority = "dhw" ∨ settings.priority = "heating"

theorem Settings.inForce_loop (settings : Settings) :
    settings.loop.inForce = settings ↔ settings.NamesPriority := by
  rcases settings with ⟨workingMode, priority, dhwTarget, heatingTarget⟩
  simp only [ControlLoop.inForce, Settings.loop,
    ControlLoop.setInitialSettings, Settings.NamesPriority,
    Settings.mk.injEq, true_and, and_true]
  split
  case isTrue heating => simp [heating, priorityToString]
  case isFalse other => simp [other, priorityToString, eq_comm]

/-- The world in which `threadFunc` starts. -/
def initialWorld (settings : Settings) (device : Device) : World Device where
  loop := settings.loop
  bus := { device := device, history := [] }

theorem initialWorld_drifted_iff (settings : Settings) (device : Device) :
    Drifted settings (initialWorld settings device) ↔
      ¬ settings.NamesPriority := by
  rw [← settings.inForce_loop]
  exact not_congr eq_comm

theorem initialWorld_explained (settings : Settings) (device : Device) :
    Explained settings (initialWorld settings device) := by
  intro drifted
  right
  rw [initialWorld_drifted_iff] at drifted
  intro priority equal
  apply drifted
  cases priority with
  | dhw => exact Or.inl equal.symm
  | heating => exact Or.inr equal.symm

theorem unmoved_publishInitialStatus (world : World Device) :
    Unmoved world (publishInitialStatus client world) := by
  have read := unmoved_readStatus client {} world
  simp only [publishInitialStatus]
  split
  · exact read.trans (unmoved_emit _ rfl)
  · exact read

theorem threadRun_append (loop : ControlLoop) (device : Device)
    (batches : List (List Command)) (batch : List Command) :
    threadRun client loop device (batches ++ [batch]) =
      pass client batch (threadRun client loop device batches) :=
  List.foldl_append

theorem threadRun_explained (settings : Settings) (device : Device)
    (batches : List (List Command)) :
    Explained settings (threadRun client settings.loop device batches) := by
  refine List.foldlRecOn batches _ ?_
    fun _ kept batch _ => pass_explained client kept batch
  exact (unmoved_publishInitialStatus client _).explained
    (initialWorld_explained settings device)

theorem threadRun_drifted_iff (settings : Settings) (device : Device)
    (batches : List (List Command)) (batch : List Command) :
    let world := threadRun client settings.loop device batches
    Drifted settings
        (threadRun client settings.loop device (batches ++ [batch])) ↔
      SilentPass client batch world ∨
        (Drifted settings world ∧ ¬ PassCallsBack client batch world) := by
  rw [threadRun_append]
  exact pass_drifted_iff client
    (threadRun_explained client settings device batches) batch

/-- What the callback got last is in force at the end of every iteration. -/
def PersistedThroughout (settings : Settings) (device : Device)
    (batches : List (List Command)) : Prop :=
  ∀ earlier batch later, batches = earlier ++ batch :: later →
    let world :=
      threadRun client settings.loop device (earlier ++ [batch])
    persisted settings world.bus.history = world.loop.inForce

/--
The settings stay persisted throughout a run if and only if no iteration
changes the priority after its last callback, and the initial settings name a
priority or the first iteration calls back.
-/
theorem persisted_throughout_iff (settings : Settings) (device : Device)
    (batches : List (List Command)) :
    PersistedThroughout client settings device batches ↔
      (∀ earlier batch later, batches = earlier ++ batch :: later →
        ¬ SilentPass client batch
          (threadRun client settings.loop device earlier)) ∧
      ∀ batch later, batches = batch :: later →
        settings.NamesPriority ∨
          PassCallsBack client batch
            (threadRun client settings.loop device []) := by
  have start : Drifted settings (threadRun client settings.loop device []) ↔
      ¬ settings.NamesPriority := by
    rw [← initialWorld_drifted_iff settings device]
    exact (unmoved_publishInitialStatus client _).drifted_iff settings
  constructor
  · intro current
    constructor
    · intro earlier batch later split silent
      exact (threadRun_drifted_iff client settings device earlier batch).mpr
        (Or.inl silent) (current earlier batch later split)
    · intro batch later split
      by_contra neither
      rcases not_or.mp neither with ⟨unnamed, uncalled⟩
      exact (threadRun_drifted_iff client settings device [] batch).mpr
        (Or.inr ⟨start.mpr unnamed, uncalled⟩) (current [] batch later split)
  · rintro ⟨announced, first⟩ earlier batch later split
    by_contra drifted
    -- Going back in the run, a drift comes from the first iteration.
    induction earlier using List.reverseRecOn generalizing batch later with
    | nil =>
        rcases (threadRun_drifted_iff client settings device [] batch).mp
          drifted with silent | ⟨unnamed, uncalled⟩
        · exact announced [] batch later split silent
        · rcases first batch later split with named | called
          · exact start.mp unnamed named
          · exact uncalled called
    | append_singleton earlier previous ih =>
        rcases (threadRun_drifted_iff client settings device
          (earlier ++ [previous]) batch).mp drifted with
          silent | ⟨before, -⟩
        · exact announced _ batch later split silent
        · exact ih previous (batch :: later) (by simpa using split) before

/-- The heating-only mode is persisted with the priority of the DHW. -/
theorem heating_only_not_persisted :
    ¬ PersistedThroughout registerFile defaultSettings (fun _ => 400)
      [[{ type := .setRunningMode, intVal := 2 }]] := by
  intro current
  exact absurd (current [] _ [] rfl) (by decide +kernel)

end Windmi.Core
