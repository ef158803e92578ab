import Windmi.Core.WriteLaws
import Windmi.Core.SnapshotFields
import Windmi.Core.Drift

/-!
# Values that are reported when they cannot be read

A heating target that cannot be read is reported as the loop remembers it, and
the loop remembers what it was told by a setpoint command, whether or not the
device took it.  An occupancy mode that cannot be read is reported as Home: the
snapshot in which it was to be left as last known is a new one every time.
-/

namespace Windmi.Core

open Windmi.Library
open Windmi.Modbus

variable {Device : Type}

/-! ## What is known of a register -/

/-- Whether a write after this history is made by a command. -/
def commanded (history : List Event) : Bool :=
  (originAfter history).join.isSome

/-- The word of a register that an event confirms. -/
def Event.confirms (address : Address) (event : Event)
    (earlier : List Event) : Option Word :=
  match event with
  | .read polled outcome => if polled = address then outcome else none
  | .write written value accepted _ =>
      if written = address ∧ accepted = true ∧ commanded earlier = true then
        some value
      else
        none
  | _ => none

/-- The word that the device confirmed most recently. -/
def confirmed (address : Address) (history : List Event) : Option Word :=
  latest (Event.confirms address) history

/-- The heating target that an event tells, confirmed or not. -/
def Event.tellsHeatingTarget (event : Event) (_ : List Event) : Option ℚ :=
  match event with
  | .read polled outcome =>
      if polled = regHeatingTarget then outcome.map rawToTemp else none
  | .command cmd =>
      if cmd.type = .setHeatingTemp then some cmd.floatVal else none
  | _ => none

/-- The heating target last read or asked for by a setpoint command. -/
def toldHeatingTarget (history : List Event) : ℚ :=
  (latest Event.tellsHeatingTarget history).getD
    ({} : ControlLoop).lastHeatingTarget

/-- The outcome of a read of the register. -/
def Event.polls (address : Address) (event : Event) (_ : List Event) :
    Option (Option Word) :=
  match event with
  | .read polled outcome => if polled = address then some outcome else none
  | _ => none

/-- What the latest read of the register gave. -/
def latestRead (address : Address) (history : List Event) : Option Word :=
  (latest (Event.polls address) history).join

/-! ## When a value is lost -/

theorem Event.tellsHeatingTarget_command {cmd : Command}
    {earlier : List Event} (kind : cmd.type = .setHeatingTemp) :
    (Event.command cmd).tellsHeatingTarget earlier = some cmd.floatVal :=
  if_pos kind

section

variable {event : Event} {earlier : List Event}

theorem toldHeatingTarget_later
    (untelling : event.tellsHeatingTarget earlier = none) :
    toldHeatingTarget (event :: earlier) = toldHeatingTarget earlier := by
  rw [toldHeatingTarget, latest_cons, untelling]
  rfl

theorem toldHeatingTarget_told {temp : ℚ}
    (tells : event.tellsHeatingTarget earlier = some temp) :
    toldHeatingTarget (event :: earlier) = temp := by
  rw [toldHeatingTarget, latest_cons, tells]
  rfl

end

theorem Adds.latest_eq {α : Type} {known : Event → List Event → Option α}
    {allowed : Event → Prop} {first second : World Device}
    (adds : Adds allowed first second) (quiet : List Event → Prop)
    (start : quiet first.bus.history)
    (silent : ∀ event, allowed event → ∀ earlier, quiet earlier →
      known event earlier = none ∧ quiet (event :: earlier)) :
    latest known second.bus.history = latest known first.bus.history := by
  rcases adds with ⟨newer, equal, all⟩
  rw [equal]
  apply latest_append start
  exact fun event member => silent event (all event member)

/-- A poll tells of each register what its read gave. -/
theorem latest_readEvents {α : Type}
    {known : Event → List Event → Option α} {address : Address}
    {tell : Option Word → Option α}
    (reads : ∀ polled outcome earlier,
      known (.read polled outcome) earlier =
        if polled = address then tell outcome else none)
    (outcome : Outcomes) (addresses : List Address)
    (history : List Event) :
    latest known (readEvents outcome addresses ++ history) =
      if address ∈ addresses then
        (tell (outcome address)).or (latest known history)
      else
        latest known history := by
  induction addresses generalizing history with
  | nil => rfl
  | cons head addresses ih =>
      rw [readEvents_cons, ih, latest_cons, reads]
      by_cases same : head = address
      · rw [same, if_pos rfl, if_pos (List.mem_cons_self ..)]
        split
        · cases tell (outcome address) <;> rfl
        · rfl
      · have member : address ∈ head :: addresses ↔
            address ∈ addresses := by
          simp [Ne.symm same]
        simp only [if_neg same, Option.none_or, member]

section

variable (outcome : Outcomes) (history : List Event)

theorem confirmed_readEvents {address : Address}
    (polled : address ∈ polledRegisters) :
    confirmed address (readEvents outcome polledRegisters ++ history) =
      (outcome address).or (confirmed address history) := by
  have reads : ∀ other outcome earlier,
      (Event.read other outcome).confirms address earlier =
        if other = address then id outcome else none :=
    fun _ _ _ => rfl
  rw [confirmed, latest_readEvents reads, if_pos polled]
  rfl

theorem latestRead_readEvents {address : Address}
    (polled : address ∈ polledRegisters) :
    latestRead address (readEvents outcome polledRegisters ++ history) =
      outcome address := by
  have reads : ∀ other outcome earlier,
      (Event.read other outcome).polls address earlier =
        if other = address then some outcome else none :=
    fun _ _ _ => rfl
  rw [latestRead, latest_readEvents reads, if_pos polled]
  rfl

theorem toldHeatingTarget_readEvents :
    toldHeatingTarget (readEvents outcome polledRegisters ++ history) =
      (outcome regHeatingTarget).elim (toldHeatingTarget history)
        rawToTemp := by
  have polled : regHeatingTarget ∈ polledRegisters := by
    decide
  have reads : ∀ other outcome earlier,
      (Event.read other outcome).tellsHeatingTarget earlier =
        if other = regHeatingTarget then outcome.map rawToTemp else none :=
    fun _ _ _ => rfl
  rw [toldHeatingTarget, latest_readEvents reads, if_pos polled]
  cases outcome regHeatingTarget <;> rfl

end

/-- Actions are no reads and no commands. -/
theorem Event.IsAction.untelling {event : Event} (action : event.IsAction)
    (earlier : List Event) : event.tellsHeatingTarget earlier = none := by
  cases event with
  | read address outcome => exact action.elim
  | command cmd => exact action.elim
  | _ => rfl

theorem Event.IsAction.unpolling {event : Event} (action : event.IsAction)
    (address : Address) (earlier : List Event) :
    event.polls address earlier = none := by
  cases event with
  | read polled outcome => exact action.elim
  | _ => rfl

/-- What the control logic writes was not written by a command. -/
theorem Event.IsAction.controlled {event : Event} (action : event.IsAction)
    (address : Address) {earlier : List Event}
    (control : originAfter earlier = some none) :
    event.confirms address earlier = none ∧
      originAfter (event :: earlier) = some none := by
  cases event with
  | write written value accepted desired =>
      refine ⟨if_neg ?_, control⟩
      rintro ⟨-, -, byCommand⟩
      rw [commanded, control] at byCommand
      cases byCommand
  | settings mode priority dhw heating => exact ⟨rfl, control⟩
  | _ => exact action.elim

section

variable (client : IModbusClient Device) (world : World Device)

theorem processCommand_told (cmd : Command) :
    toldHeatingTarget (processCommand client cmd world).bus.history =
      if cmd.type = .setHeatingTemp then cmd.floatVal
      else toldHeatingTarget world.bus.history := by
  have actions := (processCommand_actions client world cmd).latest_eq
    (fun _ => True) trivial
    fun event action earlier _ => ⟨action.untelling earlier, trivial⟩
  rw [toldHeatingTarget, actions]
  by_cases kind : cmd.type = .setHeatingTemp
  · rw [if_pos kind]
    exact toldHeatingTarget_told (Event.tellsHeatingTarget_command kind)
  · rw [if_neg kind]
    exact toldHeatingTarget_later (if_neg kind)

variable (status : StatusSnapshot)

theorem applyControlLogic_told :
    toldHeatingTarget
        (applyControlLogic client status world).bus.history =
      toldHeatingTarget world.bus.history := by
  have actions := (applyControlLogic_actions client world status).latest_eq
    (fun _ => True) trivial
    fun event action earlier _ => ⟨action.untelling earlier, trivial⟩
  rw [toldHeatingTarget, actions]
  exact toldHeatingTarget_later rfl

theorem applyControlLogic_latestRead (address : Address) :
    latestRead address
        (applyControlLogic client status world).bus.history =
      latestRead address world.bus.history := by
  have actions := (applyControlLogic_actions client world status).latest_eq
    (fun _ => True) trivial
    fun event action earlier _ =>
      ⟨action.unpolling address earlier, trivial⟩
  rw [latestRead, actions]
  rfl

theorem applyControlLogic_confirmed (address : Address) :
    confirmed address
        (applyControlLogic client status world).bus.history =
      confirmed address world.bus.history := by
  have actions := (applyControlLogic_actions client world status).latest_eq
    (fun history => originAfter history = some none) rfl
    fun event action earlier control => action.controlled address control
  rw [confirmed, actions]
  rfl

end

/-! ## What is published -/

/-- A snapshot repeats what was told, and knows no occupancy but the read. -/
structure Reported (status : StatusSnapshot) (earlier : List Event) :
    Prop where
  heating : status.heatingTarget = toldHeatingTarget earlier
  occupancy : status.occupancyMode =
    (latestRead regOccupancyMode earlier).elim 2 BitVec.toInt
  fresh : ∀ word, latestRead regOccupancyMode earlier = some word →
    confirmed regOccupancyMode earlier = some word

/-- The law of publishing. -/
def LawfulReport (event : Event) (earlier : List Event) : Prop :=
  match event with
  | .publish status => Reported status earlier
  | _ => True

/-- The loop remembers what it was told, and publishes no more than that. -/
structure Remembers (world : World Device) : Prop where
  lawful : Lawful LawfulReport world.bus.history
  told : world.loop.lastHeatingTarget = toldHeatingTarget world.bus.history

theorem Adds.lawful {allowed : Event → Prop}
    {law : Event → List Event → Prop} {first second : World Device} (adds : Adds allowed first second)
    (free : ∀ event, allowed event → ∀ earlier, law event earlier)
    (lawful : Lawful law first.bus.history) :
    Lawful law second.bus.history := by
  rcases adds with ⟨newer, equal, all⟩
  rw [equal]
  apply lawful.append
  exact fun event member => free event (all event member)

theorem Event.IsAction.lawfulReport {event : Event}
    (action : event.IsAction) (earlier : List Event) :
    LawfulReport event earlier := by
  cases event with
  | publish status => exact action.elim
  | _ => trivial

section

variable {world : World Device} (client : IModbusClient Device)

theorem Remembers.command (remembers : Remembers world) (cmd : Command) :
    Remembers (processCommand client cmd world) where
  lawful := by
    apply (processCommand_adds client world cmd).lawful ?_ remembers.lawful
    rintro event (action | ⟨popped, rfl⟩) earlier
    · exact action.lawfulReport earlier
    · trivial
  told := by
    rw [processCommand_lastHeatingTarget, processCommand_told,
      remembers.told]

theorem Remembers.commands (remembers : Remembers world)
    (batch : List Command) :
    Remembers (processCommands client batch world) :=
  List.foldlRecOn batch _ remembers
    fun _ previous cmd _ => previous.command client cmd

theorem Remembers.poll (remembers : Remembers world) :
    Remembers (readStatus client {} world).world where
  lawful := by
    apply (readStatus_adds client world {}).lawful ?_ remembers.lawful
    rintro event ⟨address, outcome, rfl⟩ earlier
    trivial
  told := by
    rw [readStatus_loop, observe_eq, readStatus_history,
      toldHeatingTarget_readEvents, remembers.told]

/-- A poll of a new snapshot. -/
theorem Remembers.reported (remembers : Remembers world) :
    Reported (readStatus client {} world).status
      (readStatus client {} world).world.bus.history := by
  let outcome := (pollReads client world.bus.device).1
  have polled : regOccupancyMode ∈ polledRegisters := by
    decide
  have status : (readStatus client {} world).status =
      (pollFrame outcome {} world.loop).status := by
    rw [readStatus_spec]
    rfl
  rw [status, readStatus_history]
  constructor
  · rw [pollFrame_heatingTarget, toldHeatingTarget_readEvents,
      remembers.told]
  · have member : occupancyModeField ∈ snapshotFields := by
      simp [snapshotFields, reportFields]
    have field := pollFrame_field member outcome {} world.loop
    rw [latestRead_readEvents _ _ polled]
    change ((pollFrame outcome {} world.loop).status.occupancyMode : ℚ) =
      (outcome regOccupancyMode).elim ((2 : Int) : ℚ)
        (fun raw => ((raw.toInt : Int) : ℚ)) at field
    rw [← apply_elim (fun mode : Int => (mode : ℚ))] at field
    exact Int.cast_injective field
  · intro word read
    rw [latestRead_readEvents _ _ polled] at read
    rw [confirmed_readEvents _ _ polled, read]
    rfl

theorem Remembers.publish (remembers : Remembers world)
    {status : StatusSnapshot} (reported : Reported status world.bus.history) :
    Remembers (world.emit (.publish status)) where
  lawful := ⟨reported, remembers.lawful⟩
  told := remembers.told

/-- The control logic changes nothing that is reported. -/
theorem Remembers.control (remembers : Remembers world)
    (status : StatusSnapshot) :
    Remembers (applyControlLogic client status world) where
  lawful := by
    apply (applyControlLogic_adds client world status).lawful ?_
      remembers.lawful
    rintro event (action | rfl) earlier
    · exact action.lawfulReport earlier
    · trivial
  told := by
    rcases applyControlLogic_loop client world status with
      ⟨current, dhw, heating, priority, equal⟩
    rw [applyControlLogic_told, equal]
    exact remembers.told

theorem Reported.control {status : StatusSnapshot}
    (reported : Reported status world.bus.history) :
    Reported status (applyControlLogic client status world).bus.history := by
  constructor
  · rw [applyControlLogic_told]
    exact reported.heating
  · rw [applyControlLogic_latestRead]
    exact reported.occupancy
  · rw [applyControlLogic_latestRead, applyControlLogic_confirmed]
    exact reported.fresh

theorem Remembers.iteration (remembers : Remembers world)
    (batch : List Command) :
    Remembers (Windmi.Core.iteration client batch world) := by
  have processed := remembers.commands client batch
  have polled := processed.poll client
  have reported := processed.reported client
  unfold Windmi.Core.iteration concludeIteration
  split
  · have controlled := reported.control client
    exact (polled.control client _).publish
      ⟨controlled.heating, controlled.occupancy, controlled.fresh⟩
  · exact polled.publish
      ⟨reported.heating, reported.occupancy, reported.fresh⟩

theorem Remembers.pass (remembers : Remembers world)
    (batch : List Command) :
    Remembers (Windmi.Core.pass client batch world) :=
  pass_induction (fun _ _ before => ⟨before.lawful, before.told⟩)
    (fun _ before => before.iteration client batch) remembers

theorem remembers_start (settings : Settings) (device : Device) :
    Remembers (publishInitialStatus client
      (initialWorld settings device)) := by
  have fresh : Remembers (initialWorld settings device) :=
    ⟨lawful_nil _, rfl⟩
  have polled := fresh.poll client
  have reported := fresh.reported client
  simp only [publishInitialStatus]
  split
  · exact polled.publish
      ⟨reported.heating, reported.occupancy, reported.fresh⟩
  · exact polled

end

/-! ## When the values are the last known ones -/

end Windmi.Core
