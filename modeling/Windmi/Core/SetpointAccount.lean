import Windmi.Core.Circuits
import Windmi.Core.WriteLaws

/-!
# What has become of a setpoint

Modes 1 and 2 suppress one circuit each by writing the minimum into its target
register, and only a setpoint command of the circuit or a mode 3 command puts
the user's setpoint back.  What has become of a setpoint is a function of the
history, and the registers and the saved targets of a failure-free run follow
it.
-/

namespace Windmi.Core

open Windmi.Library
open Windmi.Modbus

/-! ## The user's setpoint and what has become of it -/

def Event.readOf (address : Address) : Event → Option Word
  | .read other outcome => if other = address then outcome else none
  | _ => none

/-- What the first successful read of a register gave. -/
def firstRead (address : Address) (history : List Event) : Option Word :=
  (history.filterMap (Event.readOf address)).getLast?

/--
The last commanded setpoint, or the one which the device held at the first
poll if none was commanded.
-/
def Circuit.userSetpoint (circuit : Circuit) (history : List Event) :
    Option ℚ :=
  (lastSetpoint circuit.setKind history).or
    ((firstRead circuit.register history).map rawToTemp)

/-- The working mode in force. -/
def workingModeAfter (initial : Int) (history : List Event) : Int :=
  (lastModeCommand history).getD initial

/--
What has become of the user's setpoint of a circuit: it is in the register; or
the minimum has replaced it there; or the first poll has even taken that
minimum for the setpoint to save.
-/
inductive TargetState where
  | user
  | overridden
  | forgotten
  deriving DecidableEq, Repr

def TargetState.override : TargetState → TargetState
  | .user => .overridden
  | other => other

def TargetState.restore : TargetState → TargetState
  | .overridden => .user
  | other => other

def TargetState.forget : TargetState → TargetState
  | .overridden => .forgotten
  | other => other

/-- The setpoint as the register holds it is above the off threshold. -/
def Circuit.exceeds (circuit : Circuit) (history : List Event) : Bool :=
  (circuit.userSetpoint history).any fun setpoint =>
    rawToTemp (tempToRaw setpoint) > circuit.minimum + 1 / 2

/-- The state of a setpoint after the events of a failure-free run. -/
def Circuit.state (circuit : Circuit) (initial : Int) :
    List Event → TargetState
  | [] => .user
  | .command cmd :: earlier =>
      if cmd.type = circuit.setKind then
        .user
      else if cmd.type = .setRunningMode ∧ cmd.intVal = circuit.offMode then
        (circuit.state initial earlier).override
      else if cmd.type = .setRunningMode ∧ cmd.intVal = 3 then
        (circuit.state initial earlier).restore
      else
        circuit.state initial earlier
  | .read address (some _) :: earlier =>
      if address = circuit.register ∧
          firstRead circuit.register earlier = none then
        if lastSetpoint circuit.setKind earlier = none then
          .user
        else
          (circuit.state initial earlier).forget
      else
        circuit.state initial earlier
  | .control :: earlier =>
      if workingModeAfter initial earlier = circuit.offMode ∧
          circuit.exceeds earlier then
        (circuit.state initial earlier).override
      else
        circuit.state initial earlier
  | _ :: earlier => circuit.state initial earlier

/-- The word which the target register holds in each state. -/
def Circuit.heldWord (circuit : Circuit) (state : TargetState)
    (setpoint : ℚ) : Word :=
  match state with
  | .user => tempToRaw setpoint
  | .overridden => tempToRaw circuit.minimum
  | .forgotten => tempToRaw circuit.minimum

/-- The word which the saved target stands for in each state. -/
def Circuit.savedWord (circuit : Circuit) (state : TargetState)
    (setpoint : ℚ) : Word :=
  match state with
  | .user => tempToRaw setpoint
  | .overridden => tempToRaw setpoint
  | .forgotten => tempToRaw circuit.minimum

/-- The world agrees with what the history says about a circuit. -/
structure Circuit.Tracks (circuit : Circuit) (initial : Int)
    (world : World RegisterFile) : Prop where
  mode : world.loop.desiredWorkingMode =
    workingModeAfter initial world.bus.history
  initialized : world.loop.savedTargetsInitialized =
    (firstRead circuit.register world.bus.history).isSome
  register : ∀ setpoint,
    circuit.userSetpoint world.bus.history = some setpoint →
      world.bus.device circuit.register =
        circuit.heldWord (circuit.state initial world.bus.history) setpoint
  saved : ∀ setpoint,
    circuit.userSetpoint world.bus.history = some setpoint →
      tempToRaw (circuit.saved world.loop) =
        circuit.savedWord (circuit.state initial world.bus.history) setpoint
  restored : workingModeAfter initial world.bus.history = 3 →
    circuit.state initial world.bus.history ≠ .overridden
  fits : ∀ setpoint,
    circuit.userSetpoint world.bus.history = some setpoint →
      Representable setpoint

/-! ## What events do to the account -/

theorem firstRead_append (address : Address) (newer history : List Event) :
    firstRead address (newer ++ history) =
      (firstRead address history).or (firstRead address newer) := by
  rw [firstRead, List.filterMap_append, List.getLast?_append]
  rfl

theorem Event.IsAction.readOf {event : Event} (action : event.IsAction)
    (address : Address) : event.readOf address = none := by
  cases event with
  | read other outcome => exact action.elim
  | _ => rfl

theorem Event.IsAction.modeCommand {event : Event}
    (action : event.IsAction) : event.modeCommand = none := by
  cases event with
  | command cmd => exact action.elim
  | _ => rfl

section

variable {first second : World RegisterFile} (circuit : Circuit)
  (adds : Adds Event.IsAction first second)

include adds

theorem Adds.firstRead_eq (address : Address) :
    firstRead address second.bus.history =
      firstRead address first.bus.history := by
  unfold firstRead
  rw [adds.filterMap_eq fun event action => action.readOf address]

theorem Adds.workingModeAfter_eq (initial : Int) :
    workingModeAfter initial second.bus.history =
      workingModeAfter initial first.bus.history := by
  rcases adds with ⟨newer, equal, all⟩
  unfold workingModeAfter
  rw [equal, lastModeCommand_append fun event member =>
    (all event member).modeCommand]

theorem Adds.userSetpoint_eq :
    circuit.userSetpoint second.bus.history =
      circuit.userSetpoint first.bus.history := by
  unfold Circuit.userSetpoint
  rw [adds.firstRead_eq, adds.lastSetpoint_eq circuit.setKind
    fun event action => action.setpoint circuit.setKind]

theorem Adds.state_eq (initial : Int) :
    circuit.state initial second.bus.history =
      circuit.state initial first.bus.history := by
  rcases adds with ⟨newer, equal, all⟩
  rw [equal]
  clear equal
  induction newer with
  | nil => rfl
  | cons event newer ih =>
      have tail := ih fun inner member =>
        all inner (List.mem_cons_of_mem event member)
      have head : event.IsAction := all event (List.mem_cons_self ..)
      cases event with
      | write address value accepted desired => exact tail
      | settings mode priority dhw heating => exact tail
      | command cmd => exact head.elim
      | read address outcome => exact head.elim
      | control => exact head.elim
      | publish status => exact head.elim

end

/-! ## The three states -/

section

variable (circuit : Circuit) (state : TargetState) (setpoint : ℚ)

theorem Circuit.heldWord_override :
    circuit.heldWord state.override setpoint =
      tempToRaw circuit.minimum := by
  cases state <;> rfl

theorem Circuit.savedWord_override :
    circuit.savedWord state.override setpoint =
      circuit.savedWord state setpoint := by
  cases state <;> rfl

/-- Mode 3 writes the saved target. -/
theorem Circuit.heldWord_restore :
    circuit.heldWord state.restore setpoint =
      circuit.savedWord state setpoint := by
  cases state <;> rfl

theorem Circuit.savedWord_restore :
    circuit.savedWord state.restore setpoint =
      circuit.savedWord state setpoint := by
  cases state <;> rfl

theorem TargetState.forget_ne : state.forget ≠ .overridden := by
  cases state <;> decide

theorem TargetState.restore_ne : state.restore ≠ .overridden := by
  cases state <;> decide

/-- The first poll saves what it finds in the register. -/
theorem Circuit.heldWord_forget :
    circuit.heldWord state.forget setpoint =
        circuit.heldWord state setpoint ∧
      circuit.savedWord state.forget setpoint =
        circuit.heldWord state setpoint := by
  cases state <;> exact ⟨rfl, rfl⟩

end

/-! ## Commands, polls and control logic keep track -/

section

variable {circuit : Circuit} {initial : Int} {world : World RegisterFile}

theorem userSetpoint_command (cmd : Command) (history : List Event) :
    circuit.userSetpoint (.command cmd :: history) =
      if cmd.type = circuit.setKind then some cmd.floatVal
      else circuit.userSetpoint history := by
  unfold Circuit.userSetpoint lastSetpoint
  simp only [List.findSome?_cons, Event.setpoint]
  split_ifs
  · rfl
  · rfl

theorem workingModeAfter_command (cmd : Command) (history : List Event) :
    workingModeAfter initial (.command cmd :: history) =
      if cmd.type = .setRunningMode then cmd.intVal
      else workingModeAfter initial history := by
  unfold workingModeAfter lastModeCommand
  simp only [List.findSome?_cons, Event.modeCommand]
  split_ifs <;> rfl

theorem state_command (cmd : Command) (history : List Event) :
    circuit.state initial (.command cmd :: history) =
      if cmd.type = circuit.setKind then
        .user
      else if cmd.type = .setRunningMode ∧ cmd.intVal = circuit.offMode then
        (circuit.state initial history).override
      else if cmd.type = .setRunningMode ∧ cmd.intVal = 3 then
        (circuit.state initial history).restore
      else
        circuit.state initial history :=
  rfl

theorem Circuit.Tracks.command (tracks : circuit.Tracks initial world)
    (governed : circuit.Governed) {cmd : Command}
    (inRange : cmd.SetpointInRange) :
    circuit.Tracks initial (processCommand registerFile cmd world) := by
  have actions := processCommand_actions registerFile world cmd
  have register := governed.command cmd world
  have saved := governed.commandSaved cmd world
  have setpointEqual := (actions.userSetpoint_eq circuit).trans
    (userSetpoint_command cmd world.bus.history)
  have stateEqual := (actions.state_eq circuit initial).trans
    (state_command cmd world.bus.history)
  have modeEqual := (actions.workingModeAfter_eq initial).trans
    (workingModeAfter_command cmd world.bus.history)
  constructor
  case mode =>
    rw [processCommand_desired, modeEqual, tracks.mode]
  case initialized =>
    rw [(processCommand_saved registerFile world cmd).2.2,
      actions.firstRead_eq, tracks.initialized]
    rfl
  case register =>
    intro setpoint
    rw [setpointEqual, stateEqual, register]
    split_ifs
    · rintro ⟨⟩
      rfl
    · intro _
      rw [circuit.heldWord_override]
    · intro found
      rw [circuit.heldWord_restore]
      exact tracks.saved setpoint found
    · exact tracks.register setpoint
  case saved =>
    intro setpoint
    rw [setpointEqual, stateEqual, saved]
    split_ifs
    · rintro ⟨⟩
      rfl
    · rw [circuit.savedWord_override]
      exact tracks.saved setpoint
    · rw [circuit.savedWord_restore]
      exact tracks.saved setpoint
    · exact tracks.saved setpoint
  case restored =>
    rw [modeEqual, stateEqual]
    by_cases set : cmd.type = circuit.setKind
    · rw [if_pos set]
      exact fun _ => by decide
    rw [if_neg set]
    by_cases kind : cmd.type = .setRunningMode
    · rw [if_pos kind]
      intro three
      have notOff : ¬ (cmd.type = .setRunningMode ∧
          cmd.intVal = circuit.offMode) := by
        rintro ⟨-, off⟩
        exact governed.offMode (off.symm.trans three)
      rw [if_neg notOff, if_pos ⟨kind, three⟩]
      exact TargetState.restore_ne _
    · rw [if_neg kind, if_neg fun both => kind both.1,
        if_neg fun both => kind both.1]
      exact tracks.restored
  case fits =>
    intro setpoint
    rw [setpointEqual]
    split_ifs with set
    · rintro ⟨⟩
      exact governed.inRange cmd inRange set
    · exact tracks.fits setpoint

theorem firstRead_cons (address other : Address) (outcome : Option Word)
    (history : List Event) :
    firstRead address (.read other outcome :: history) =
      (firstRead address history).or
        (if other = address then outcome else none) := by
  rw [← List.singleton_append, firstRead_append]
  congr 1
  simp only [firstRead, List.filterMap_cons, Event.readOf,
    List.filterMap_nil]
  split_ifs
  · cases outcome <;> rfl
  · rfl

/-- The first poll finds the content of the register. -/
theorem firstRead_poll (registers : RegisterFile) (address : Address)
    (addresses : List Address) (history : List Event) :
    firstRead address (readEvents (contents registers) addresses ++ history) =
      (firstRead address history).or
        (if address ∈ addresses then some (registers address)
          else none) := by
  induction addresses generalizing history with
  | nil => simp [readEvents]
  | cons head addresses ih =>
      rw [readEvents_cons, ih, firstRead_cons]
      by_cases same : head = address
      · have inside : address ∈ head :: addresses := by
          rw [same]
          exact List.mem_cons_self ..
        rw [if_pos same, if_pos inside, same]
        cases firstRead address history with
        | none => simp [contents]
        | some raw => rfl
      · have member :
            address ∈ head :: addresses ↔ address ∈ addresses := by
          simp [Ne.symm same]
        simp [same, member]

theorem state_read (address : Address) (raw : Word)
    (history : List Event) :
    circuit.state initial (.read address (some raw) :: history) =
      if address = circuit.register ∧
          firstRead circuit.register history = none then
        if lastSetpoint circuit.setKind history = none then
          .user
        else
          (circuit.state initial history).forget
      else
        circuit.state initial history :=
  rfl

/-- Only the first poll can change the state of a setpoint. -/
theorem state_poll (registers : RegisterFile) (addresses : List Address)
    (history : List Event) :
    circuit.state initial
        (readEvents (contents registers) addresses ++ history) =
      if circuit.register ∈ addresses ∧
          firstRead circuit.register history = none then
        if lastSetpoint circuit.setKind history = none then
          .user
        else
          (circuit.state initial history).forget
      else
        circuit.state initial history := by
  induction addresses generalizing history with
  | nil => simp [readEvents]
  | cons head addresses ih =>
      have sameLast :
          lastSetpoint circuit.setKind
              (.read head (contents registers head) :: history) =
            lastSetpoint circuit.setKind history :=
        rfl
      rw [readEvents_cons, ih, firstRead_cons, sameLast, contents,
        state_read]
      have sameAddress : ∀ history : List Event,
          head ≠ circuit.register →
            (if head = circuit.register ∧
                firstRead circuit.register history = none then
              if lastSetpoint circuit.setKind history = none then
                TargetState.user
              else
                (circuit.state initial history).forget
            else
              circuit.state initial history) =
                circuit.state initial history :=
        fun history different => if_neg fun both => different both.1
      by_cases same : head = circuit.register
      · rw [if_pos same]
        have found : ((firstRead circuit.register history).or
            (some (registers head))) ≠ none := by
          cases firstRead circuit.register history <;> simp
        rw [if_neg fun both => found both.2]
        simp [same]
      · rw [if_neg same, Option.or_none, sameAddress history same]
        have member : circuit.register ∈ head :: addresses ↔
            circuit.register ∈ addresses := by
          simp [Ne.symm same]
        simp [member]

/-- What a poll does to a circuit and to its account. -/
structure Circuit.PollStep (circuit : Circuit) (initial : Int)
    (world polled : World RegisterFile) : Prop where
  device : polled.bus.device = world.bus.device
  desired : polled.loop.desiredWorkingMode = world.loop.desiredWorkingMode
  initialized : polled.loop.savedTargetsInitialized = true
  saved : circuit.saved polled.loop =
    observedTarget world.loop.savedTargetsInitialized
      (some (world.bus.device circuit.register)) (circuit.saved world.loop)
  first : firstRead circuit.register polled.bus.history =
    (firstRead circuit.register world.bus.history).or
      (some (world.bus.device circuit.register))
  last : lastSetpoint circuit.setKind polled.bus.history =
    lastSetpoint circuit.setKind world.bus.history
  mode : workingModeAfter initial polled.bus.history =
    workingModeAfter initial world.bus.history
  state : circuit.state initial polled.bus.history =
    if firstRead circuit.register world.bus.history = none then
      if lastSetpoint circuit.setKind world.bus.history = none then .user
      else (circuit.state initial world.bus.history).forget
    else
      circuit.state initial world.bus.history

theorem Circuit.Governed.pollStep (governed : circuit.Governed)
    (initial : Int) (world : World RegisterFile) :
    circuit.PollStep initial world (polledWorld world) where
  device := rfl
  desired := observe_desiredWorkingMode _ _
  initialized := by
    have flag := congrArg ControlLoop.savedTargetsInitialized
      (observe_eq (contents world.bus.device) world.loop)
    exact flag.trans (Bool.or_true _)
  saved := governed.observed world.bus.device world.loop
  first := by
    refine (firstRead_poll world.bus.device circuit.register
      polledRegisters world.bus.history).trans ?_
    rw [if_pos governed.polled]
  last := by
    have read : lastSetpoint circuit.setKind
        (readStatus registerFile {} world).world.bus.history =
          lastSetpoint circuit.setKind world.bus.history :=
      readStatus_lastSetpoint registerFile {} circuit.setKind
    rw [readStatus_registerFile] at read
    exact read
  mode := by
    refine congrArg (fun last => last.getD initial)
      (lastModeCommand_append ?_)
    intro event member
    rcases mem_readEvents member with ⟨address, -, rfl⟩
    rfl
  state := by
    refine (state_poll world.bus.device polledRegisters
      world.bus.history).trans ?_
    simp only [governed.polled, true_and]

/-- Once the targets are settled a poll changes nothing. -/
theorem Circuit.Tracks.poll_settled {polled : World RegisterFile}
    (tracks : circuit.Tracks initial world)
    (step : circuit.PollStep initial world polled) {raw : Word}
    (known : firstRead circuit.register world.bus.history = some raw) :
    circuit.Tracks initial polled ∧
      (circuit.userSetpoint polled.bus.history).isSome := by
  have first := step.first
  rw [known] at first
  have setpoint : circuit.userSetpoint polled.bus.history =
      circuit.userSetpoint world.bus.history := by
    rw [Circuit.userSetpoint, Circuit.userSetpoint, first, step.last, known]
    rfl
  have state : circuit.state initial polled.bus.history =
      circuit.state initial world.bus.history := by
    rw [step.state, known]
    rfl
  have saved : circuit.saved polled.loop = circuit.saved world.loop := by
    rw [step.saved, tracks.initialized, known]
    rfl
  constructor
  · constructor
    case mode => rw [step.desired, step.mode, tracks.mode]
    case initialized =>
      rw [step.initialized, first]
      rfl
    case register =>
      rw [setpoint, state, step.device]
      exact tracks.register
    case saved =>
      rw [setpoint, state, saved]
      exact tracks.saved
    case restored =>
      rw [step.mode, state]
      exact tracks.restored
    case fits =>
      rw [setpoint]
      exact tracks.fits
  · rw [setpoint, Circuit.userSetpoint, known]
    cases lastSetpoint circuit.setKind world.bus.history <;> rfl

/--
The first poll saves what it finds, so that from then on the register and the
saved target agree.
-/
theorem Circuit.Tracks.poll_first {polled : World RegisterFile}
    (tracks : circuit.Tracks initial world)
    (step : circuit.PollStep initial world polled)
    (unknown : firstRead circuit.register world.bus.history = none)
    {setpoint : ℚ}
    (user : circuit.userSetpoint polled.bus.history = some setpoint)
    (held : world.bus.device circuit.register =
      circuit.heldWord (circuit.state initial polled.bus.history) setpoint)
    (kept : world.bus.device circuit.register =
      circuit.savedWord (circuit.state initial polled.bus.history) setpoint)
    (settled : circuit.state initial polled.bus.history ≠ .overridden)
    (fits : Representable setpoint) :
    circuit.Tracks initial polled ∧
      (circuit.userSetpoint polled.bus.history).isSome := by
  have first := step.first
  rw [unknown] at first
  have saved : tempToRaw (circuit.saved polled.loop) =
      world.bus.device circuit.register := by
    rw [step.saved, tracks.initialized, unknown]
    exact tempToRaw_rawToTemp _
  constructor
  · constructor
    case mode => rw [step.desired, step.mode, tracks.mode]
    case initialized =>
      rw [step.initialized, first]
      rfl
    case register =>
      rw [user, step.device]
      rintro _ ⟨⟩
      exact held
    case saved =>
      rw [user, saved]
      rintro _ ⟨⟩
      exact kept
    case restored => exact fun _ => settled
    case fits =>
      rw [user]
      rintro _ ⟨⟩
      exact fits
  · rw [user]
    rfl

theorem Circuit.Tracks.poll (tracks : circuit.Tracks initial world)
    (governed : circuit.Governed) :
    circuit.Tracks initial (polledWorld world) ∧
      (circuit.userSetpoint (polledWorld world).bus.history).isSome := by
  have step := governed.pollStep initial world
  let found := world.bus.device circuit.register
  cases known : firstRead circuit.register world.bus.history with
  | some raw => exact tracks.poll_settled step known
  | none =>
      have first := step.first
      have state := step.state
      rw [known] at first
      rw [known, if_pos rfl] at state
      cases commanded : lastSetpoint circuit.setKind world.bus.history with
      | none =>
          have user : circuit.userSetpoint (polledWorld world).bus.history =
              some (rawToTemp found) := by
            rw [Circuit.userSetpoint, first, step.last, commanded]
            rfl
          rw [commanded, if_pos rfl] at state
          refine tracks.poll_first step known user ?_ ?_ ?_
            (representable_rawToTemp found)
          · rw [state]
            exact (tempToRaw_rawToTemp found).symm
          · rw [state]
            exact (tempToRaw_rawToTemp found).symm
          · rw [state]
            exact TargetState.noConfusion
      | some temp =>
          have before : circuit.userSetpoint world.bus.history =
              some temp := by
            rw [Circuit.userSetpoint, commanded]
            rfl
          have user : circuit.userSetpoint (polledWorld world).bus.history =
              some temp := by
            rw [Circuit.userSetpoint, step.last, commanded]
            rfl
          rw [commanded, if_neg (Option.some_ne_none temp)] at state
          rcases circuit.heldWord_forget
            (circuit.state initial world.bus.history) temp with
            ⟨heldForget, savedForget⟩
          have held : found = circuit.heldWord
              (circuit.state initial world.bus.history) temp :=
            tracks.register temp before
          refine tracks.poll_first step known user ?_ ?_ ?_
            (tracks.fits temp before)
          · rw [state]
            exact held.trans heldForget.symm
          · rw [state]
            exact held.trans savedForget.symm
          · rw [state]
            exact TargetState.forget_ne _

theorem state_control (history : List Event) :
    circuit.state initial (.control :: history) =
      if workingModeAfter initial history = circuit.offMode ∧
          circuit.exceeds history then
        (circuit.state initial history).override
      else
        circuit.state initial history :=
  rfl

theorem state_control_other {history : List Event}
    (other : workingModeAfter initial history ≠ circuit.offMode) :
    circuit.state initial (.control :: history) =
      circuit.state initial history := by
  rw [state_control]
  exact if_neg fun both => other both.1

theorem Circuit.enforced_off (governed : circuit.Governed)
    {loop : ControlLoop} (off : loop.desiredWorkingMode = circuit.offMode)
    (raw : Word) :
    circuit.enforced loop raw =
      if rawToTemp raw > circuit.minimum + 1 / 2 then
        tempToRaw circuit.minimum
      else
        raw := by
  have notThree : circuit.offMode ≠ 3 := governed.offMode
  simp [Circuit.enforced, off, notThree]

theorem Circuit.enforced_other {loop : ControlLoop}
    (notOff : loop.desiredWorkingMode ≠ circuit.offMode) (raw : Word) :
    circuit.enforced loop raw =
      if loop.desiredWorkingMode = 3 ∧
          Apart (rawToTemp raw) (circuit.saved loop) then
        tempToRaw (circuit.saved loop)
      else
        raw :=
  if_neg fun both => notOff both.1

/-- The control logic moves the register as the account says. -/
theorem Circuit.Tracks.enforced_eq (tracks : circuit.Tracks initial world)
    (governed : circuit.Governed) (bounded : Bounded world.loop)
    {setpoint : ℚ}
    (found : circuit.userSetpoint world.bus.history = some setpoint) :
    circuit.enforced world.loop (world.bus.device circuit.register) =
      circuit.heldWord
        (circuit.state initial (.control :: world.bus.history))
        setpoint := by
  have register := tracks.register setpoint found
  have exceeds : circuit.exceeds world.bus.history =
      decide (rawToTemp (tempToRaw setpoint) >
        circuit.minimum + 1 / 2) := by
    rw [Circuit.exceeds, found]
    rfl
  have below : ¬ rawToTemp (tempToRaw circuit.minimum) >
      circuit.minimum + 1 / 2 := by
    rw [governed.minimum]
    linarith
  rw [register]
  by_cases off : world.loop.desiredWorkingMode = circuit.offMode
  · rw [circuit.enforced_off governed off, state_control, exceeds,
      ← tracks.mode]
    simp only [off, true_and, decide_eq_true_eq]
    cases circuit.state initial world.bus.history with
    | user =>
        by_cases above : rawToTemp (tempToRaw setpoint) >
            circuit.minimum + 1 / 2
        · simp only [Circuit.heldWord, TargetState.override, if_pos above]
          exact if_pos above
        · simp only [Circuit.heldWord, if_neg above]
          exact if_neg above
    | overridden =>
        simp only [Circuit.heldWord, TargetState.override, ite_self]
        exact if_neg below
    | forgotten =>
        simp only [Circuit.heldWord, TargetState.override, ite_self]
        exact if_neg below
  · have notOff : workingModeAfter initial world.bus.history ≠
        circuit.offMode := by
      rw [← tracks.mode]
      exact off
    rw [circuit.enforced_other off, state_control_other notOff]
    by_cases three : world.loop.desiredWorkingMode = 3
    · have notOverridden := tracks.restored (tracks.mode.symm.trans three)
      have word : circuit.heldWord
          (circuit.state initial world.bus.history) setpoint =
            tempToRaw (circuit.saved world.loop) := by
        rw [tracks.saved setpoint found]
        cases known : circuit.state initial world.bus.history with
        | user => rfl
        | overridden => exact absurd known notOverridden
        | forgotten => rfl
      rw [word]
      exact if_neg fun both =>
        not_apart_tempToRaw (governed.fits world.loop bounded) both.2
    · exact if_neg fun both => three both.1

theorem Circuit.Tracks.control (tracks : circuit.Tracks initial world)
    (governed : circuit.Governed) (bounded : Bounded world.loop)
    (known : (circuit.userSetpoint world.bus.history).isSome)
    {status : StatusSnapshot} (polled : Polled status world.bus.device) :
    circuit.Tracks initial (applyControlLogic registerFile status world) ∧
      (circuit.userSetpoint
        (applyControlLogic registerFile status world).bus.history).isSome := by
  have actions := applyControlLogic_actions registerFile world status
  have setpointEqual := actions.userSetpoint_eq circuit
  have stateEqual := actions.state_eq circuit initial
  have modeEqual := actions.workingModeAfter_eq initial
  have device := applyControlLogic_device polled
  rcases applyControlLogic_registerFile status world with
    ⟨dhw, heating, loopEqual⟩
  have saved : circuit.saved
      (applyControlLogic registerFile status world).loop =
        circuit.saved world.loop := by
    rw [loopEqual, governed.controlSaved]
  refine ⟨⟨?_, ?_, ?_, ?_, ?_, ?_⟩, ?_⟩
  · rw [modeEqual, loopEqual]
    exact tracks.mode
  · rw [actions.firstRead_eq, loopEqual]
    exact tracks.initialized
  · intro setpoint found
    rw [setpointEqual] at found
    rw [device, governed.control, stateEqual]
    exact tracks.enforced_eq governed bounded found
  · intro setpoint found
    rw [setpointEqual] at found
    rw [saved, stateEqual, tracks.saved setpoint found]
    simp only [World.emit, state_control]
    split_ifs
    · rw [circuit.savedWord_override]
    · rfl
  · rw [modeEqual, stateEqual]
    intro three
    have notOff : workingModeAfter initial world.bus.history ≠
        circuit.offMode := by
      intro off
      exact governed.offMode (off.symm.trans three)
    have same : circuit.state initial (world.emit .control).bus.history =
        circuit.state initial world.bus.history :=
      state_control_other notOff
    rw [same]
    exact tracks.restored three
  · rw [setpointEqual]
    exact tracks.fits
  · rw [setpointEqual]
    exact known

/-- An iteration keeps track, and from the first one on a setpoint is known. -/
theorem Circuit.Tracks.iteration (tracks : circuit.Tracks initial world)
    (governed : circuit.Governed) (bounded : Bounded world.loop)
    {batch : List Command}
    (inRange : ∀ cmd ∈ batch, cmd.SetpointInRange) :
    let after := Windmi.Core.iteration registerFile batch world
    circuit.Tracks initial after ∧
      (circuit.userSetpoint after.bus.history).isSome := by
  intro after
  have commanded : circuit.Tracks initial
      (processCommands registerFile batch world) :=
    List.foldlRecOn batch _ tracks
      fun _ previous cmd member =>
        previous.command governed (inRange cmd member)
  rcases commanded.poll governed with ⟨polled, known⟩
  have polledBounded :
      Bounded (polledWorld (processCommands registerFile batch world)).loop :=
    (bounded.processCommands registerFile inRange).observe _
  have status : Polled
      (polledStatus (processCommands registerFile batch world))
      (polledWorld (processCommands registerFile batch world)).bus.device :=
    pollFrame_polled _ _
  have controlled := polled.control governed polledBounded known status
  rw [show after = _ from iteration_registerFile batch world]
  exact ⟨⟨controlled.1.mode, controlled.1.initialized,
      controlled.1.register, controlled.1.saved, controlled.1.restored,
      controlled.1.fits⟩,
    controlled.2⟩

end

end Windmi.Core
