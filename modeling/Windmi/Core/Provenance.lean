import Windmi.Core.TargetWrites
import Windmi.Core.Drift

/-!
# Where the written setpoints come from

A saved target starts as a constant of the constructor.  A setpoint command
replaces it, and so does a read of the register before a poll was complete.
Once a poll was complete without the heating target, that constant stays, and
restoring it puts a setpoint on the device which nobody asked for.
-/

namespace Windmi.Core

open Windmi.Library
open Windmi.Modbus

variable {Device : Type}

/-- The poll before the event was complete. -/
def Event.completes : Event → Bool
  | .control => true
  | .publish status => status.deviceOnline
  | _ => false

/-- Some poll was complete, which settles the saved targets. -/
def settledBy (history : List Event) : Bool :=
  history.any Event.completes

/-- The last thing that the loop took for a setpoint of the user. -/
def Circuit.learned (circuit : Circuit) : List Event → Option ℚ
  | [] => none
  | .command cmd :: earlier =>
      if cmd.type = circuit.setKind then some cmd.floatVal
      else circuit.learned earlier
  | .read address (some word) :: earlier =>
      if address = circuit.register ∧ settledBy earlier = false then
        some (rawToTemp word)
      else
        circuit.learned earlier
  | _ :: earlier => circuit.learned earlier

/-- The constant of the constructor. -/
def Circuit.default (circuit : Circuit) : ℚ :=
  circuit.saved {}

/-- The target that the settings file names. -/
def Circuit.configured (circuit : Circuit) (settings : Settings) : ℚ :=
  if circuit.setKind = .setDhwTemp then settings.dhwTarget
  else settings.heatingTarget

/-- Where a value may come from, up to the precision of the register. -/
inductive Circuit.Source (circuit : Circuit) (settings : Settings)
    (history : List Event) (value : Word) : Prop where
  | commanded (cmd : Command) (happened : .command cmd ∈ history)
      (kind : cmd.type = circuit.setKind)
      (equal : tempToRaw cmd.floatVal = value)
  | read (happened : .read circuit.register (some value) ∈ history)
  | configured (equal : tempToRaw (circuit.configured settings) = value)
  | minimum (equal : tempToRaw circuit.minimum = value)

/-- Every value written to the register had a source. -/
def Circuit.NeverInvents (circuit : Circuit) (settings : Settings)
    (history : List Event) : Prop :=
  ∀ newer value accepted desired earlier,
    history =
        newer ++ .write circuit.register value accepted desired :: earlier →
      circuit.Source settings earlier value

/-- The loop has learned the target, or the constant happens to be one. -/
def Circuit.KnowsTarget (circuit : Circuit) (settings : Settings)
    (world : World Device) : Prop :=
  (circuit.learned world.bus.history).isSome ∨
    tempToRaw (circuit.configured settings) = tempToRaw circuit.default ∨
    .read circuit.register (some (tempToRaw circuit.default)) ∈
      world.bus.history

/-! ## What has been learned -/

section

variable {circuit : Circuit}

theorem learned_neutral {event : Event} (neutral : circuit.Neutral event)
    (earlier : List Event) :
    circuit.learned (event :: earlier) = circuit.learned earlier := by
  cases event with
  | command cmd => exact if_neg neutral
  | read address outcome => exact neutral.elim
  | _ => rfl

theorem learned_of_adds {newer : Event → Prop} {first second : World Device}
    (adds : Adds newer first second)
    (neutral : ∀ event, newer event → circuit.Neutral event) :
    circuit.learned second.bus.history =
      circuit.learned first.bus.history := by
  rcases adds with ⟨events, equal, all⟩
  rw [equal]
  clear equal
  induction events with
  | nil => rfl
  | cons event events ih =>
      have head := neutral event (all event (List.mem_cons_self ..))
      rw [List.cons_append, learned_neutral head,
        ih fun inner inside => all inner (List.mem_cons_of_mem _ inside)]

theorem settledBy_of_adds {newer : Event → Prop} {first second : World Device}
    (adds : Adds newer first second)
    (incomplete : ∀ event, newer event → event.completes = false) :
    settledBy second.bus.history = settledBy first.bus.history := by
  rcases adds with ⟨events, equal, all⟩
  have nothing : events.any Event.completes = false := by
    rw [List.any_eq_false]
    intro event inside
    simp [incomplete event (all event inside)]
  rw [settledBy, equal, List.any_append, nothing, Bool.false_or]
  rfl

theorem Event.IsAction.completes {event : Event} (action : event.IsAction) :
    event.completes = false := by
  cases event with
  | control => exact action.elim
  | publish status => exact action.elim
  | _ => rfl

theorem settledBy_readEvents (outcome : Outcomes) (addresses : List Address)
    (history : List Event) :
    settledBy (readEvents outcome addresses ++ history) =
      settledBy history := by
  have nothing : (readEvents outcome addresses).any Event.completes =
      false := by
    rw [List.any_eq_false]
    intro event inside
    rcases mem_readEvents inside with ⟨address, -, rfl⟩
    exact Bool.false_ne_true
  rw [settledBy, List.any_append, nothing, Bool.false_or]
  rfl

theorem learned_read (address : Address) (outcome : Option Word)
    (history : List Event) :
    circuit.learned (.read address outcome :: history) =
      if address = circuit.register ∧ settledBy history = false then
        (outcome.map rawToTemp).or (circuit.learned history)
      else
        circuit.learned history := by
  cases outcome with
  | none => exact (ite_self _).symm
  | some word => rfl

/-- A poll learns the target unless the saved targets are settled. -/
theorem learned_readEvents (outcome : Outcomes) (addresses : List Address)
    (history : List Event) :
    circuit.learned (readEvents outcome addresses ++ history) =
      if circuit.register ∈ addresses ∧ settledBy history = false then
        ((outcome circuit.register).map rawToTemp).or
          (circuit.learned history)
      else
        circuit.learned history := by
  induction addresses generalizing history with
  | nil => simp [readEvents]
  | cons head addresses ih =>
      have settled : settledBy (.read head (outcome head) :: history) =
          settledBy history :=
        rfl
      rw [readEvents_cons, ih, settled, learned_read]
      by_cases same : head = circuit.register
      · rw [same]
        by_cases unsettled : settledBy history = false
        · simp only [unsettled, and_true, List.mem_cons, true_or, if_true]
          split
          · cases outcome circuit.register <;> rfl
          · rfl
        · simp [unsettled]
      · have member : circuit.register ∈ head :: addresses ↔
            circuit.register ∈ addresses := by
          simp [Ne.symm same]
        simp only [same, false_and, if_false, member]

end

/-! ## The saved target is the learned one -/

/-- The loop saved what its history says, and knows whether it is settled. -/
structure Circuit.Accounted (circuit : Circuit) (world : World Device) :
    Prop where
  saved : circuit.saved world.loop =
    (circuit.learned world.bus.history).getD circuit.default
  settled : world.loop.savedTargetsInitialized =
    settledBy world.bus.history

section

variable {circuit : Circuit} {world : World Device}
  (member : circuit ∈ [dhwCircuit, heatingCircuit])
  (client : IModbusClient Device)

include member

theorem Circuit.Accounted.command (accounted : circuit.Accounted world)
    (cmd : Command) :
    circuit.Accounted (processCommand client cmd world) := by
  have actions := processCommand_actions client world cmd
  constructor
  · rw [Circuit.saved_processCommand member,
      learned_of_adds actions fun event action => action.neutral circuit]
    simp only [World.emit, Circuit.learned]
    split
    · rfl
    · exact accounted.saved
  · rw [(processCommand_saved client world cmd).2.2, accounted.settled,
      settledBy_of_adds actions fun event action => action.completes]
    rfl

theorem Circuit.Accounted.commands (accounted : circuit.Accounted world)
    (batch : List Command) :
    circuit.Accounted (processCommands client batch world) :=
  List.foldlRecOn batch _ accounted
    fun _ previous cmd _ => previous.command member client cmd

/-- After a poll the saved target is the learned one. -/
theorem Circuit.Accounted.poll (accounted : circuit.Accounted world) :
    let poll := readStatus client {} world
    circuit.saved poll.world.loop =
        (circuit.learned poll.world.bus.history).getD circuit.default ∧
      poll.world.loop.savedTargetsInitialized =
        (settledBy poll.world.bus.history || poll.ok) := by
  intro poll
  constructor
  · have inside := Circuit.register_polled member
    have saved := Circuit.saved_observe member
      (pollReads client world.bus.device).1 world.loop
    rw [← readStatus_loop client {}, accounted.settled,
      accounted.saved] at saved
    rw [saved, readStatus_history, learned_readEvents]
    cases settledBy world.bus.history with
    | true => simp [observedTarget]
    | false =>
        simp only [inside, true_and, if_true, observedTarget,
          Bool.false_eq_true, if_false]
        cases (pollReads client world.bus.device).1 circuit.register <;> rfl
  · rw [readStatus_loop, observe_eq, readStatus_history,
      settledBy_readEvents, readStatus_ok]
    simp only [accounted.settled]

/-- Publishing says whether the poll was complete. -/
theorem Circuit.Accounted.iteration (accounted : circuit.Accounted world)
    (batch : List Command) :
    circuit.Accounted (Windmi.Core.iteration client batch world) := by
  have processed := accounted.commands member client batch
  let poll := readStatus client {} (processCommands client batch world)
  rcases processed.poll member client with ⟨polled, flag⟩
  unfold Windmi.Core.iteration concludeIteration
  split
  case isTrue ok =>
    rcases applyControlLogic_loop client poll.world poll.status with
      ⟨current, dhw, heating, priority, equal⟩
    have learned := learned_of_adds
      (applyControlLogic_adds client poll.world poll.status)
      fun event control => control.neutral circuit
    constructor
    case saved =>
      refine (Circuit.saved_applyControlLogic member client poll.world
        poll.status).trans (polled.trans ?_)
      exact congrArg (fun target => target.getD circuit.default)
        learned.symm
    case settled =>
      have online := readStatus_deviceOnline client
        (processCommands client batch world) {}
      rw [ok] at flag online
      have kept := congrArg ControlLoop.savedTargetsInitialized equal
      refine (kept.trans flag).trans ?_
      rw [Bool.or_true]
      simp only [World.emit, settledBy, List.any_cons, Event.completes,
        online, Bool.true_or]
  case isFalse failed =>
    have incomplete : poll.ok = false := by simpa using failed
    rw [incomplete, Bool.or_false] at flag
    exact ⟨polled, flag⟩

omit member in
theorem Circuit.Accounted.connection (accounted : circuit.Accounted world) :
    circuit.Accounted (Windmi.Core.connection client world).2 := by
  unfold Windmi.Core.connection
  split
  · exact accounted
  · exact ⟨accounted.saved, accounted.settled⟩

theorem Circuit.Accounted.pass (accounted : circuit.Accounted world)
    (batch : List Command) :
    circuit.Accounted (Windmi.Core.pass client batch world) :=
  pass_induction (fun _ _ known => ⟨known.saved, known.settled⟩)
    (fun _ known => known.iteration member client batch) accounted

/-- The initial poll is accounted for, complete or not. -/
theorem Circuit.accounted_start (settings : Settings) (device : Device) :
    circuit.Accounted
      (publishInitialStatus client (initialWorld settings device)) := by
  have fresh : circuit.Accounted (initialWorld settings device) := by
    constructor
    · rcases Circuit.dhw_or_heating member with rfl | rfl <;> rfl
    · rfl
  let poll := readStatus client {} (initialWorld settings device)
  rcases fresh.poll member client with ⟨polled, flag⟩
  simp only [publishInitialStatus]
  split
  case isTrue ok =>
    rw [ok, Bool.or_true] at flag
    exact ⟨polled, flag⟩
  case isFalse failed =>
    have incomplete : poll.ok = false := by simpa using failed
    rw [incomplete, Bool.or_false] at flag
    exact ⟨polled, flag⟩

theorem Circuit.accounted_threadRun (settings : Settings) (device : Device)
    (batches : List (List Command)) :
    circuit.Accounted (threadRun client settings.loop device batches) :=
  List.foldlRecOn batches _
    (Circuit.accounted_start member client settings device)
    fun _ known batch _ => known.pass member client batch

end

/-! ## Sources -/

section

variable {circuit : Circuit} {settings : Settings}

/-- A write needs a source. -/
def Circuit.sourced (circuit : Circuit) (settings : Settings) :
    WritePolicy circuit where
  allows := circuit.Source settings
  steady := by
    intro event neutral earlier value
    constructor
    · rintro (⟨cmd, happened, kind, equal⟩ | happened | equal | equal)
      · rcases List.mem_cons.mp happened with rfl | before
        · exact absurd kind neutral
        · exact .commanded cmd before kind equal
      · rcases List.mem_cons.mp happened with rfl | before
        · exact neutral.elim
        · exact .read before
      · exact .configured equal
      · exact .minimum equal
    · rintro (⟨cmd, happened, kind, equal⟩ | happened | equal | equal)
      · exact .commanded cmd (List.mem_cons_of_mem _ happened) kind equal
      · exact .read (List.mem_cons_of_mem _ happened)
      · exact .configured equal
      · exact .minimum equal
  minimum := fun _ => .minimum rfl

theorem Circuit.neverInvents_iff {world : World Device} :
    circuit.NeverInvents settings world.bus.history ↔
      (circuit.sourced settings).Obeyed world := by
  rw [WritePolicy.Obeyed, lawful_iff]
  constructor
  · intro never newer event earlier split
    cases event with
    | write address value accepted desired =>
        rintro rfl
        exact never newer value accepted desired earlier split
    | _ => trivial
  · intro obeyed newer value accepted desired earlier split
    exact obeyed newer _ earlier split rfl

theorem Circuit.Source.cons {event : Event} {earlier : List Event}
    {value : Word} (source : circuit.Source settings earlier value) :
    circuit.Source settings (event :: earlier) value := by
  rcases source with ⟨cmd, happened, kind, equal⟩ | happened | equal | equal
  · exact .commanded cmd (List.mem_cons_of_mem _ happened) kind equal
  · exact .read (List.mem_cons_of_mem _ happened)
  · exact .configured equal
  · exact .minimum equal

/-- What was learned is a source. -/
theorem Circuit.learned_source {history : List Event} {temp : ℚ}
    (learned : circuit.learned history = some temp) :
    circuit.Source settings history (tempToRaw temp) := by
  induction history with
  | nil => cases learned
  | cons event earlier ih =>
      cases event with
      | command cmd =>
          rw [Circuit.learned] at learned
          split at learned
          case isTrue kind =>
            cases learned
            exact .commanded cmd (List.mem_cons_self ..) kind rfl
          case isFalse => exact (ih learned).cons
      | read address outcome =>
          rw [learned_read] at learned
          split at learned
          case isTrue here =>
            cases outcome with
            | none => exact (ih learned).cons
            | some word =>
                cases learned
                rw [tempToRaw_rawToTemp, here.1]
                exact .read (List.mem_cons_self ..)
          case isFalse => exact (ih learned).cons
      | write address value accepted desired => exact (ih learned).cons
      | settings mode priority dhw heating => exact (ih learned).cons
      | control => exact (ih learned).cons
      | publish status => exact (ih learned).cons

/-- A setpoint command teaches something. -/
theorem Circuit.learned_of_command {history : List Event} {cmd : Command}
    (happened : .command cmd ∈ history) (kind : cmd.type = circuit.setKind) :
    (circuit.learned history).isSome := by
  induction history with
  | nil => cases happened
  | cons event earlier ih =>
      rcases List.mem_cons.mp happened with rfl | before
      · rw [Circuit.learned, if_pos kind]
        rfl
      · have known := ih before
        cases event with
        | command other =>
            rw [Circuit.learned]
            split
            · rfl
            · exact known
        | read address outcome =>
            rw [learned_read]
            split
            · rw [Option.isSome_or, known, Bool.or_true]
            · exact known
        | write address value accepted desired => exact known
        | settings mode priority dhw heating => exact known
        | control => exact known
        | publish status => exact known

end

/-- Restoring the saved target is allowed where the target is known. -/
theorem Circuit.allowsSaved_iff {circuit : Circuit}
    {world : World Device} (settings : Settings)
    (member : circuit ∈ [dhwCircuit, heatingCircuit])
    (saved : circuit.saved world.loop =
      (circuit.learned world.bus.history).getD circuit.default) :
    (circuit.sourced settings).AllowsSaved world ↔
      circuit.KnowsTarget settings world := by
  unfold WritePolicy.AllowsSaved Circuit.KnowsTarget
  rw [saved]
  cases learned : circuit.learned world.bus.history with
  | some temp =>
      exact iff_of_true (circuit.learned_source learned) (Or.inl rfl)
  | none =>
      constructor
      · rintro (⟨cmd, happened, kind, -⟩ | happened | equal | equal)
        · have known := circuit.learned_of_command happened kind
          rw [learned] at known
          cases known
        · exact Or.inr (Or.inr happened)
        · exact Or.inr (Or.inl equal)
        · rcases Circuit.dhw_or_heating member with rfl | rfl <;>
            exact absurd equal (by decide +kernel)
      · rintro (impossible | equal | happened)
        · cases impossible
        · exact .configured equal
        · exact .read happened

/-- In an accounted iteration saved targets are the learned ones. -/
theorem Circuit.Accounted.restoresOnly_congr {circuit : Circuit}
    {world : World Device} (accounted : circuit.Accounted world)
    (member : circuit ∈ [dhwCircuit, heatingCircuit])
    (client : IModbusClient Device) {vetted other : World Device → Prop}
    (same : ∀ world : World Device,
      circuit.saved world.loop =
          (circuit.learned world.bus.history).getD circuit.default →
        (vetted world ↔ other world))
    (batch : List Command) :
    circuit.RestoresOnly client vetted batch world ↔
      circuit.RestoresOnly client other batch world := by
  have polled := ((accounted.commands member client batch).poll member
    client).1
  have reached : ∀ earlier,
      circuit.saved (processCommands client earlier world).loop =
        (circuit.learned
          (processCommands client earlier world).bus.history).getD
            circuit.default :=
    fun earlier => (accounted.commands member client earlier).saved
  constructor
  · intro only
    constructor
    · intro earlier cmd later split restores
      exact (same _ (reached earlier)).mp
        (only.commands earlier cmd later split restores)
    · intro poll ok restores
      exact (same poll.world polled).mp (only.control ok restores)
  · intro only
    constructor
    · intro earlier cmd later split restores
      exact (same _ (reached earlier)).mpr
        (only.commands earlier cmd later split restores)
    · intro poll ok restores
      exact (same poll.world polled).mpr (only.control ok restores)

/--
Every setpoint that a run writes has a source if and only if each iteration
restores a saved target only where the target is known.
-/
theorem setpoints_sourced_iff (client : IModbusClient Device)
    (settings : Settings) (device : Device)
    (batches : List (List Command)) :
    (∀ circuit ∈ [dhwCircuit, heatingCircuit],
      circuit.NeverInvents settings
        (threadRun client settings.loop device batches).bus.history) ↔
      ∀ circuit ∈ [dhwCircuit, heatingCircuit],
        ∀ earlier batch later, batches = earlier ++ batch :: later →
          let world := threadRun client settings.loop device earlier
          (connection client world).1 = true →
            circuit.RestoresOnly client (circuit.KnowsTarget settings) batch
              (connection client world).2 := by
  refine forall₂_congr fun circuit member => ?_
  let policy := circuit.sourced settings
  have start : policy.Obeyed
      (publishInitialStatus client (initialWorld settings device)) :=
    (policy.keptIf_publishInitialStatus client
      (initialWorld settings device)).mpr ⟨lawful_nil _, trivial⟩
  have commanded : ∀ batch ∈ batches, ∀ cmd ∈ batch,
      cmd.type = circuit.setKind →
        ∀ earlier, policy.allows (.command cmd :: earlier)
          (tempToRaw cmd.floatVal) :=
    fun batch _ cmd _ kind earlier =>
      .commanded cmd (List.mem_cons_self ..) kind rfl
  have run := Iff.trans
    (policy.keptIf_runLoop client
      (publishInitialStatus client (initialWorld settings device)) member
      commanded)
    (and_iff_right start)
  rw [Circuit.neverInvents_iff]
  refine run.trans ?_
  refine forall₃_congr fun earlier batch later => ?_
  refine forall₂_congr fun split connected => ?_
  have accounted := (Circuit.accounted_threadRun member client settings
    device earlier).connection client
  exact accounted.restoresOnly_congr member client
    (fun world saved =>
      Circuit.allowsSaved_iff settings member saved) batch

/-- A device that accepts writes while none of its reads gets through. -/
def deaf : IModbusClient RegisterFile :=
  { registerFile with readRegister := fun _ registers => (none, registers) }

/-- Mode 3 is selected before any poll got through. -/
def selectedUnpolled : World RegisterFile :=
  threadRun deaf defaultSettings.loop (fun _ => 500)
    [[{ type := .setRunningMode, intVal := 3 }]]

/-- The user's 50 °C are replaced by the 46 °C of the constructor. -/
theorem default_replaces_setpoint :
    ¬ ∀ circuit ∈ [dhwCircuit, heatingCircuit],
      circuit.NeverInvents defaultSettings selectedUnpolled.bus.history := by
  intro never
  have split : selectedUnpolled.bus.history =
      selectedUnpolled.bus.history.take 29 ++
        .write dhwCircuit.register 460 true 3 ::
          selectedUnpolled.bus.history.drop 30 := by
    decide +kernel
  have unlearned : dhwCircuit.learned
      (selectedUnpolled.bus.history.drop 30) = none := by
    decide +kernel
  rcases never dhwCircuit (List.mem_cons_self ..) _ _ _ _ _ split with
    ⟨cmd, happened, kind, -⟩ | happened | equal | equal
  · have known := dhwCircuit.learned_of_command happened kind
    rw [unlearned] at known
    cases known
  · exact absurd happened (by decide +kernel)
  · exact absurd equal (by decide +kernel)
  · exact absurd equal (by decide +kernel)

end Windmi.Core
