import Windmi.Core.FaultyBus
import Windmi.Core.Settling

/-!
# Recovering from a setpoint write that threw

The command is gone from the queue, but the loop has saved its setpoint, and in
mode 3 the control logic restores a saved target which differs from the polled
one.  No other mode looks at it; and until the saved targets are initialised,
a poll puts what the register holds in its place.
-/

namespace Windmi.Core

open Windmi.Modbus

variable {Device : Type}

/-- The poll after these commands replaces the saved target. -/
def Circuit.Relearns (circuit : Circuit) (client : IModbusClient Device)
    (commanded : World Device) : Prop :=
  commanded.loop.savedTargetsInitialized = false ∧
    ((pollReads client commanded.bus.device).1 circuit.register).isSome

/-- Some poll of the passes replaces the saved target. -/
def Circuit.RelearnsDuring (circuit : Circuit)
    (client : IModbusClient Device) :
    List (List Command) → World Device → Prop
  | [], _ => False
  | batch :: later, world =>
      ((connection client world).1 = true ∧
          circuit.Relearns client
            (processCommands client batch (connection client world).2)) ∨
        circuit.RelearnsDuring client later (pass client batch world)

/-- A pass that gets a connection and whose accesses all succeed. -/
structure FaultlessPass (client : IModbusClient Device)
    (batch : List Command) (world : World Device) : Prop where
  connected : (connection client world).1 = true
  faultless : failures (pass client batch world).bus.history =
    failures world.bus.history

/-- Neither a setpoint of the circuit nor a mode is commanded. -/
def Circuit.Undisturbed (circuit : Circuit) (batch : List Command) : Prop :=
  ∀ cmd ∈ batch, cmd.type ≠ circuit.setKind ∧ cmd.type ≠ .setRunningMode

/-! ## A setpoint that waits for its register -/

/--
The register still holds what it held when the write threw, unless the saved
target has been restored, which takes mode 3 and a difference above the
tolerance.
-/
structure Circuit.Pending (circuit : Circuit)
    (registers : Device → RegisterFile) (mode : Int) (held : Word)
    (temp : ℚ) (world : World Device) : Prop where
  desired : world.loop.desiredWorkingMode = mode
  serves : mode ≠ circuit.offMode
  fits : Representable temp
  saved : circuit.saved world.loop = temp
  fresh : world.loop.savedTargetsInitialized = false →
    world.held registers circuit.register = held
  register : world.held registers circuit.register = held ∨
    mode = 3 ∧ Apart (rawToTemp held) temp ∧
      world.held registers circuit.register = tempToRaw temp
  /-- What is reported for the heating target if it cannot be read. -/
  stale : circuit.setKind = .setHeatingTemp →
    ¬ Apart (rawToTemp held) temp →
      ¬ Apart world.loop.lastHeatingTarget temp

/-- What a poll makes of the target that waits. -/
def Circuit.Learned (circuit : Circuit) (client : IModbusClient Device)
    (commanded : World Device) (held : Word) (temp learned : ℚ) : Prop :=
  circuit.Relearns client commanded ∧ learned = rawToTemp held ∨
    ¬ circuit.Relearns client commanded ∧ learned = temp

section

variable {client : IModbusClient Device} {registers : Device → RegisterFile}
  {circuit : Circuit} {mode : Int} {held : Word} {temp : ℚ}
  {world : World Device}

theorem Circuit.Pending.transfer {later : World Device}
    (pending : circuit.Pending registers mode held temp world)
    (loop : later.loop = world.loop)
    (register : later.held registers circuit.register =
      world.held registers circuit.register) :
    circuit.Pending registers mode held temp later := by
  rcases pending with
    ⟨desired, serves, fits, saved, fresh, either, stale⟩
  rw [← loop] at desired saved fresh stale
  rw [← register] at fresh either
  exact ⟨desired, serves, fits, saved, fresh, either, stale⟩

/-- Below the tolerance nothing is ever restored. -/
theorem Circuit.Pending.unrestored
    (pending : circuit.Pending registers mode held temp world)
    (near : ¬ Apart (rawToTemp held) temp) :
    world.held registers circuit.register = held := by
  rcases pending.register with same | ⟨-, apart, -⟩
  · exact same
  · exact absurd apart near

variable (sole : SoleMaster client registers)
  (member : circuit ∈ [dhwCircuit, heatingCircuit])

include member

include sole

theorem Circuit.Pending.command
    (pending : circuit.Pending registers mode held temp world)
    {cmd : Command} (notSet : cmd.type ≠ circuit.setKind)
    (notMode : cmd.type ≠ .setRunningMode) :
    circuit.Pending registers mode held temp
      (processCommand client cmd world) := by
  have same := (sole.processCommand member world notSet notMode).untouched
  rcases pending with
    ⟨desired, serves, fits, saved, fresh, either, stale⟩
  constructor
  case desired => rwa [processCommand_desired, if_neg notMode]
  case serves => exact serves
  case fits => exact fits
  case saved =>
    rwa [Circuit.saved_processCommand member, if_neg notSet]
  case fresh => rwa [(processCommand_saved client world cmd).2.2, same]
  case register => rwa [same]
  case stale =>
    intro heating
    rw [processCommand_lastHeatingTarget,
      if_neg fun equal => notSet (equal.trans heating.symm)]
    exact stale heating

theorem Circuit.Pending.commands
    (pending : circuit.Pending registers mode held temp world)
    {batch : List Command} (undisturbed : circuit.Undisturbed batch) :
    circuit.Pending registers mode held temp
      (processCommands client batch world) :=
  List.foldlRecOn batch _ pending
    fun _ previous cmd inside =>
      previous.command sole member (undisturbed cmd inside).1
        (undisturbed cmd inside).2

/-! ## Polls -/

omit sole in
/-- The heating target alone may be missing from a complete poll. -/
theorem Circuit.reported_readStatus
    (ok : (readStatus client {} world).ok = true) :
    let outcome := (pollReads client world.bus.device).1
    circuit.reported (readStatus client {} world).status =
        (outcome circuit.register).elim world.loop.lastHeatingTarget
          rawToTemp ∧
      ((outcome circuit.register).isSome ∨
        circuit.setKind = .setHeatingTemp) := by
  intro outcome
  have status : (readStatus client {} world).status =
      (pollFrame outcome {} world.loop).status := by
    rw [readStatus_spec]
    rfl
  rw [readStatus_ok] at ok
  rw [status]
  rcases Circuit.dhw_or_heating member with rfl | rfl
  · have critical : regDhwTarget ∈ criticalRegisters := by decide
    have found : (outcome regDhwTarget).isSome :=
      List.all_eq_true.mp ok _ critical
    rcases Option.isSome_iff_exists.mp found with ⟨word, equal⟩
    refine ⟨?_, Or.inl found⟩
    rw [dhwCircuit_reported, pollFrame_dhwTarget]
    simp only [dhwCircuit, equal, Option.elim_some]
  · rw [heatingCircuit_reported, pollFrame_heatingTarget]
    exact ⟨rfl, Or.inr rfl⟩

omit sole member in
/-- A poll within the tolerance of a target hears nothing else. -/
theorem Circuit.Pending.heard
    (pending : circuit.Pending registers mode held temp world)
    {outcome : Outcomes}
    (faithful : ∀ word, outcome circuit.register = some word →
      word = world.held registers circuit.register)
    (known : (outcome circuit.register).isSome ∨
      circuit.setKind = .setHeatingTemp)
    (near : ¬ Apart (rawToTemp held) temp) :
    ¬ Apart ((outcome circuit.register).elim world.loop.lastHeatingTarget
      rawToTemp) temp := by
  cases found : outcome circuit.register with
  | some word =>
      rw [Option.elim_some, faithful word found, pending.unrestored near]
      exact near
  | none =>
      rw [found] at known
      rcases known with impossible | heating
      · cases impossible
      · exact pending.stale heating near

omit member in
theorem SoleMaster.readStatus_held (status : StatusSnapshot)
    (address : Address) :
    (readStatus client status world).world.held registers address =
      world.held registers address := by
  rw [readStatus_spec]
  exact congrFun (sole.readAll polledRegisters world.bus.device).1 address

/-- What a poll makes of the target that waits, from what it hears. -/
theorem Circuit.Pending.observe {learned : ℚ}
    (pending : circuit.Pending registers mode held temp world)
    (fits : Representable learned)
    (saved : circuit.saved (readStatus client {} world).world.loop = learned)
    (either : world.held registers circuit.register = held ∨
      mode = 3 ∧ Apart (rawToTemp held) learned ∧
        world.held registers circuit.register = tempToRaw learned)
    (near : circuit.setKind = .setHeatingTemp →
      ¬ Apart (rawToTemp held) learned →
        ¬ Apart (((pollReads client world.bus.device).1
          circuit.register).elim world.loop.lastHeatingTarget rawToTemp)
            learned) :
    circuit.Pending registers mode held learned
      (readStatus client {} world).world := by
  have register : (readStatus client {} world).world.held registers
      circuit.register = world.held registers circuit.register :=
    sole.readStatus_held {} circuit.register
  constructor
  case desired =>
    rw [readStatus_loop, observe_desiredWorkingMode]
    exact pending.desired
  case serves => exact pending.serves
  case fits => exact fits
  case saved => exact saved
  case fresh =>
    rw [register, readStatus_loop, observe_eq]
    exact fun unset => pending.fresh (Bool.or_eq_false_iff.mp unset).1
  case register =>
    rw [register]
    exact either
  case stale =>
    intro heating
    have same : circuit.register = regHeatingTarget := by
      rcases Circuit.dhw_or_heating member with rfl | rfl
      · cases heating
      · rfl
    rw [same] at near
    rw [readStatus_loop, observe_eq]
    exact near heating

/-- A poll, as far as the target that waits is concerned. -/
theorem Circuit.Pending.poll
    (pending : circuit.Pending registers mode held temp world) :
    ∃ learned, circuit.Learned client world held temp learned ∧
      circuit.Pending registers mode held learned
        (readStatus client {} world).world ∧
      ((readStatus client {} world).ok = true →
        ¬ Apart (rawToTemp held) learned →
          ¬ Apart (circuit.reported (readStatus client {} world).status)
            learned) := by
  have saved := Circuit.saved_observe member
    (pollReads client world.bus.device).1 world.loop
  have faithful : ∀ word,
      (pollReads client world.bus.device).1 circuit.register = some word →
        word = world.held registers circuit.register :=
    (sole.readAll polledRegisters world.bus.device).2 circuit.register
  by_cases relearns : circuit.Relearns client world
  case pos =>
    rcases Option.isSome_iff_exists.mp relearns.2 with ⟨word, found⟩
    have heard : word = held :=
      (faithful word found).trans (pending.fresh relearns.1)
    have near := not_apart_self (rawToTemp held)
    refine ⟨rawToTemp held, Or.inl ⟨relearns, rfl⟩, ?_, ?_⟩
    · refine pending.observe sole member (representable_rawToTemp held) ?_
        (Or.inl (pending.fresh relearns.1)) ?_
      · rw [readStatus_loop, saved, relearns.1, found, heard]
        rfl
      · intro _ _
        rw [found, heard]
        exact near
    · intro ok _
      rw [(Circuit.reported_readStatus member ok).1, found, heard]
      exact near
  case neg =>
    refine ⟨temp, Or.inr ⟨relearns, rfl⟩, ?_, ?_⟩
    · refine pending.observe sole member pending.fits ?_ pending.register ?_
      · rw [readStatus_loop, saved, pending.saved]
        unfold observedTarget
        split
        case isTrue => rfl
        case isFalse unset =>
          have missed : (pollReads client world.bus.device).1
              circuit.register = none := by
            rw [← Option.not_isSome_iff_eq_none]
            exact fun found => relearns ⟨by simpa using unset, found⟩
          rw [missed]
          rfl
      · intro heating
        exact pending.heard faithful (Or.inr heating)
    · intro ok
      rcases Circuit.reported_readStatus member ok with ⟨reported, known⟩
      rw [reported]
      exact pending.heard faithful known

/-! ## Iterations -/

omit sole member in
theorem publish_failures (status : StatusSnapshot) :
    failures (world.emit (.publish status)).bus.history =
      failures world.bus.history :=
  List.countP_cons_of_neg Bool.false_ne_true

/-- The control logic restores the target or leaves the register alone. -/
theorem Circuit.Pending.control
    (pending : circuit.Pending registers mode held temp world)
    (initialized : world.loop.savedTargetsInitialized = true)
    {status : StatusSnapshot}
    (near : ¬ Apart (rawToTemp held) temp →
      ¬ Apart (circuit.reported status) temp) :
    circuit.Pending registers mode held temp
      (applyControlLogic client status world) := by
  have serves : world.loop.desiredWorkingMode ≠ circuit.offMode := by
    rw [pending.desired]
    exact pending.serves
  have leaves := sole.applyControlLogic member world status serves
  have either := leaves.either
  rcases applyControlLogic_loop client world status with
    ⟨current, dhw, heating, priority, equal⟩
  constructor
  case desired =>
    rw [equal]
    exact pending.desired
  case serves => exact pending.serves
  case fits => exact pending.fits
  case saved =>
    rw [Circuit.saved_applyControlLogic member]
    exact pending.saved
  case fresh =>
    rw [equal]
    intro unset
    exact absurd (initialized.symm.trans unset) (by decide)
  case register =>
    rcases either with same | restored
    · rw [same]
      exact pending.register
    · by_cases restores : circuit.Restores status world.loop
      · rw [Circuit.restoring, if_pos restores, pending.saved] at restored
        have far := restores.2
        rw [pending.saved] at far
        refine Or.inr ⟨pending.desired.symm.trans restores.1, ?_,
          Option.some.inj restored⟩
        by_contra close
        exact near close far
      · rw [Circuit.restoring, if_neg restores] at restored
        cases restored
  case stale =>
    rw [equal]
    exact pending.stale

omit sole member in
theorem Circuit.Pending.publish
    (pending : circuit.Pending registers mode held temp world)
    (status : StatusSnapshot) :
    circuit.Pending registers mode held temp
      (world.emit (.publish status)) :=
  pending.transfer rfl rfl

theorem Circuit.Pending.iteration
    (pending : circuit.Pending registers mode held temp world)
    {batch : List Command} (undisturbed : circuit.Undisturbed batch) :
    ∃ learned,
      circuit.Learned client (processCommands client batch world) held temp
        learned ∧
      circuit.Pending registers mode held learned
        (Windmi.Core.iteration client batch world) := by
  have commanded := pending.commands sole member undisturbed
  rcases commanded.poll sole member with ⟨learned, learns, polled, near⟩
  refine ⟨learned, learns, ?_⟩
  unfold Windmi.Core.iteration concludeIteration
  split
  case isTrue ok =>
    have initialized := readStatus_initialized client ok
    exact (polled.control sole member initialized (near ok)).publish _
  case isFalse => exact polled.publish _

omit sole member in
/-- An iteration without failures polls and controls without failures. -/
theorem faultless_parts {batch : List Command}
    (same : failures (Windmi.Core.iteration client batch world).bus.history =
      failures world.bus.history) :
    let commanded := processCommands client batch world
    let poll := readStatus client {} commanded
    failures poll.world.bus.history = failures commanded.bus.history ∧
      poll.ok = true ∧
      failures (applyControlLogic client poll.status
        poll.world).bus.history = failures poll.world.bus.history := by
  intro commanded poll
  have first : failures world.bus.history ≤
      failures commanded.bus.history :=
    (processCommands_adds client world batch).failures_le
  have second : failures commanded.bus.history ≤
      failures poll.world.bus.history :=
    (readStatus_adds client commanded {}).failures_le
  have third : failures poll.world.bus.history ≤
      failures (applyControlLogic client poll.status
        poll.world).bus.history :=
    (applyControlLogic_adds client poll.world poll.status).failures_le
  have complete : failures poll.world.bus.history =
      failures commanded.bus.history → poll.ok = true := by
    intro faultless
    rw [readStatus_history] at faultless
    have found := outcome_of_faultless faultless
    rw [readStatus_ok, pollOk, List.all_eq_true]
    exact fun address critical =>
      found address (criticalRegisters_polled address critical)
  by_cases ok : poll.ok = true
  case pos =>
    have whole : failures
        (Windmi.Core.iteration client batch world).bus.history =
          failures (applyControlLogic client poll.status
            poll.world).bus.history := by
      rw [Windmi.Core.iteration, concludeIteration, if_pos ok,
        publish_failures]
    exact ⟨by omega, ok, by omega⟩
  case neg =>
    have whole : failures
        (Windmi.Core.iteration client batch world).bus.history =
          failures poll.world.bus.history := by
      rw [Windmi.Core.iteration, concludeIteration, if_neg ok,
        publish_failures]
    exact absurd (complete (by omega)) ok

/-- What an iteration without failures leaves in the register. -/
theorem Circuit.Pending.restored
    (pending : circuit.Pending registers mode held temp world)
    {batch : List Command} (undisturbed : circuit.Undisturbed batch)
    (faultless :
      failures (Windmi.Core.iteration client batch world).bus.history =
        failures world.bus.history) :
    ∃ learned,
      circuit.Learned client (processCommands client batch world) held temp
        learned ∧
      (Windmi.Core.iteration client batch world).held registers
          circuit.register =
        if mode = 3 ∧ Apart (rawToTemp held) learned then
          tempToRaw learned
        else
          held := by
  let commanded := processCommands client batch world
  let poll := readStatus client {} commanded
  rcases faultless_parts faultless with ⟨reading, ok, controlling⟩
  have known := pending.commands sole member undisturbed
  rcases known.poll sole member with ⟨learned, learns, polled, -⟩
  refine ⟨learned, learns, ?_⟩
  have reported : circuit.reported poll.status =
      rawToTemp (poll.world.held registers circuit.register) := by
    rw [readStatus_history] at reading
    have inside := Circuit.register_polled member
    rcases Option.isSome_iff_exists.mp
      (outcome_of_faultless reading _ inside) with ⟨word, found⟩
    have heard := (sole.readAll polledRegisters
      commanded.bus.device).2 circuit.register word found
    rw [(Circuit.reported_readStatus member ok).1, found,
      sole.readStatus_held, Option.elim_some, heard]
    rfl
  have serves : poll.world.loop.desiredWorkingMode ≠ circuit.offMode := by
    rw [polled.desired]
    exact polled.serves
  have left := (sole.applyControlLogic member poll.world poll.status
    serves).faultless controlling
  have whole : (Windmi.Core.iteration client batch world).held registers
      circuit.register =
        (applyControlLogic client poll.status poll.world).held registers
          circuit.register := by
    rw [Windmi.Core.iteration, concludeIteration, if_pos ok]
    rfl
  have restores : circuit.Restores poll.status poll.world.loop ↔
      mode = 3 ∧ Apart
        (rawToTemp (poll.world.held registers circuit.register)) learned := by
    rw [Circuit.Restores, polled.saved, polled.desired, reported]
  rw [whole, left, Circuit.restoring, polled.saved]
  rcases polled.register with same | ⟨three, apart, same⟩
  · rw [same] at restores ⊢
    by_cases both : mode = 3 ∧ Apart (rawToTemp held) learned
    · rw [if_pos both, if_pos (restores.mpr both)]
      rfl
    · rw [if_neg both, if_neg (both ∘ restores.mp)]
      rfl
  · have within : ¬ circuit.Restores poll.status poll.world.loop := by
      rw [restores, same]
      exact fun both => not_apart_tempToRaw polled.fits both.2
    rw [same, if_neg within, if_pos ⟨three, apart⟩]
    rfl

/-! ## Passes -/

omit member in
theorem SoleMaster.reconnect (retries : Nat) (device : Device) :
    registers (reconnect client retries device).2 = registers device := by
  induction retries generalizing device with
  | zero => rfl
  | succ retries ih =>
      simp only [Windmi.Core.reconnect]
      split
      · exact sole.connect device
      · exact (ih _).trans (sole.connect device)

omit sole member in
variable (client world) in
theorem connection_history :
    (connection client world).2.bus.history = world.bus.history := by
  unfold connection
  split <;> rfl

omit member in
theorem Circuit.Pending.connection
    (pending : circuit.Pending registers mode held temp world) :
    circuit.Pending registers mode held temp
      (Windmi.Core.connection client world).2 := by
  unfold Windmi.Core.connection
  split
  · exact pending
  · exact pending.transfer rfl
      (congrFun (sole.reconnect modbusMaxRetries world.bus.device) _)

/-- What waits after some passes. -/
theorem Circuit.Pending.runLoop {batches : List (List Command)}
    (pending : circuit.Pending registers mode held temp world)
    (undisturbed : ∀ batch ∈ batches, circuit.Undisturbed batch) :
    ∃ learned,
      (circuit.RelearnsDuring client batches world ∧
          learned = rawToTemp held ∨
        ¬ circuit.RelearnsDuring client batches world ∧ learned = temp) ∧
      circuit.Pending registers mode held learned
        (Windmi.Core.runLoop client batches world) := by
  induction batches generalizing world temp with
  | nil => exact ⟨temp, Or.inr ⟨not_false, rfl⟩, pending⟩
  | cons batch batches ih =>
      have head : circuit.Undisturbed batch :=
        undisturbed batch (List.mem_cons_self ..)
      have tail : ∀ each ∈ batches, circuit.Undisturbed each :=
        fun each inside => undisturbed each (List.mem_cons_of_mem _ inside)
      have connected := pending.connection sole
      have equal := pass_eq client batch world
      by_cases connects : (Windmi.Core.connection client world).1 = true
      case neg =>
        rw [if_neg connects] at equal
        rw [← equal] at connected
        rcases ih connected tail with ⟨learned, learns, after⟩
        refine ⟨learned, ?_, after⟩
        simpa only [Circuit.RelearnsDuring, connects, Bool.false_eq_true,
          false_and, false_or] using learns
      case pos =>
        rw [if_pos connects] at equal
        rcases connected.iteration sole member head with
          ⟨first, learnsFirst, iterated⟩
        rw [← equal] at iterated
        rcases ih iterated tail with ⟨learned, learns, after⟩
        refine ⟨learned, ?_, after⟩
        simp only [Circuit.RelearnsDuring, connects, true_and]
        rcases learnsFirst with ⟨relearns, rfl⟩ | ⟨kept, rfl⟩
        · refine Or.inl ⟨Or.inl relearns, ?_⟩
          rcases learns with ⟨-, rfl⟩ | ⟨-, rfl⟩ <;> rfl
        · simpa only [kept, false_or] using learns

/-- What a pass without failures leaves in the register. -/
theorem Circuit.Pending.faultlessPass {batch : List Command}
    (pending : circuit.Pending registers mode held temp world)
    (undisturbed : circuit.Undisturbed batch)
    (clean : FaultlessPass client batch world) :
    ∃ learned,
      (circuit.RelearnsDuring client [batch] world ∧
          learned = rawToTemp held ∨
        ¬ circuit.RelearnsDuring client [batch] world ∧ learned = temp) ∧
      (pass client batch world).held registers circuit.register =
        if mode = 3 ∧ Apart (rawToTemp held) learned then
          tempToRaw learned
        else
          held := by
  have faultless := clean.faultless
  rw [pass_eq, if_pos clean.connected, ← connection_history client world]
    at faultless
  rw [pass_eq, if_pos clean.connected]
  rcases (pending.connection sole).restored sole member undisturbed
    faultless with ⟨learned, learns, left⟩
  refine ⟨learned, ?_, left⟩
  simpa only [Circuit.RelearnsDuring, clean.connected, true_and, or_false,
    Circuit.Learned] using learns

end

/-! ## When a setpoint is recovered -/

theorem Circuit.relearnsDuring_append (circuit : Circuit)
    (client : IModbusClient Device) (batches : List (List Command))
    (last : List Command) (world : World Device) :
    circuit.RelearnsDuring client (batches ++ [last]) world ↔
      circuit.RelearnsDuring client batches world ∨
        circuit.RelearnsDuring client [last]
          (runLoop client batches world) := by
  induction batches generalizing world with
  | nil => exact (false_or _).symm ▸ Iff.rfl
  | cons batch batches ih =>
      simp only [List.cons_append, Circuit.RelearnsDuring, or_assoc]
      refine or_congr Iff.rfl ?_
      exact ih (pass client batch world)

/-- The setpoint of a command waits for the register to hold it. -/
theorem Circuit.pending_processCommand {registers : Device → RegisterFile}
    {circuit : Circuit} (member : circuit ∈ [dhwCircuit, heatingCircuit])
    (client : IModbusClient Device) {world : World Device} {cmd : Command}
    (kind : cmd.type = circuit.setKind) (inRange : cmd.SetpointInRange)
    (serves : world.loop.desiredWorkingMode ≠ circuit.offMode) :
    circuit.Pending registers world.loop.desiredWorkingMode
      ((processCommand client cmd world).held registers circuit.register)
      cmd.floatVal (processCommand client cmd world) := by
  have notMode : cmd.type ≠ .setRunningMode := by
    rw [kind]
    exact Circuit.setKind_ne member
  have saved : Representable cmd.floatVal ∧
      circuit.saved (processCommand client cmd world).loop =
        cmd.floatVal := by
    rcases processCommand_saved client world cmd with ⟨dhw, heating, -⟩
    rcases Circuit.dhw_or_heating member with rfl | rfl
    · rw [if_pos (show cmd.type = .setDhwTemp from kind)] at dhw
      exact ⟨inRange.dhw_representable kind, dhw⟩
    · rw [if_pos (show cmd.type = .setHeatingTemp from kind)] at heating
      exact ⟨inRange.heating_representable kind, heating⟩
  constructor
  case desired => rw [processCommand_desired, if_neg notMode]
  case serves => exact serves
  case fits => exact saved.1
  case saved => exact saved.2
  case fresh => exact fun _ => rfl
  case register => exact Or.inl rfl
  case stale =>
    intro heating _
    rw [processCommand_lastHeatingTarget, if_pos (kind.trans heating)]
    exact not_apart_self _

/--
A setpoint commanded in a mode which serves its circuit, whether or not its
write throws, is in the register after a later pass without failures if and
only if the command left it there, or mode 3 restores it: it is off by more
than the tolerance, and no poll has replaced the saved target since.
-/
theorem setpoint_recovered_iff {client : IModbusClient Device}
    {registers : Device → RegisterFile} (sole : SoleMaster client registers)
    {circuit : Circuit} (member : circuit ∈ [dhwCircuit, heatingCircuit])
    (world : World Device) {cmd : Command}
    (kind : cmd.type = circuit.setKind) (inRange : cmd.SetpointInRange)
    (serves : world.loop.desiredWorkingMode ≠ circuit.offMode)
    {rest last : List Command} {batches : List (List Command)}
    (undisturbed : ∀ batch ∈ rest :: (batches ++ [last]),
      circuit.Undisturbed batch) :
    let commanded := processCommand client cmd world
    let resumed := iteration client rest commanded
    let held := commanded.held registers circuit.register
    FaultlessPass client last (runLoop client batches resumed) →
      ((runLoop client (batches ++ [last]) resumed).held registers
          circuit.register = tempToRaw cmd.floatVal ↔
        held = tempToRaw cmd.floatVal ∨
          world.loop.desiredWorkingMode = 3 ∧
            Apart (rawToTemp held) cmd.floatVal ∧
            ¬ circuit.Relearns client
              (processCommands client rest commanded) ∧
            ¬ circuit.RelearnsDuring client (batches ++ [last]) resumed) := by
  intro commanded resumed held clean
  have pending : circuit.Pending registers world.loop.desiredWorkingMode
      held cmd.floatVal commanded :=
    Circuit.pending_processCommand member client kind inRange serves
  rcases pending.iteration sole member (undisturbed rest
    (List.mem_cons_self ..)) with ⟨first, learnsFirst, iterated⟩
  rcases iterated.runLoop sole member fun batch inside =>
    undisturbed batch (List.mem_cons_of_mem _
      (List.mem_append_left _ inside)) with ⟨second, learnsSecond, settled⟩
  rcases settled.faultlessPass sole member (undisturbed last (by simp))
    clean with ⟨learned, learnsLast, left⟩
  have final : (runLoop client (batches ++ [last]) resumed).held registers
      circuit.register = _ :=
    (congrArg (World.held registers circuit.register)
      List.foldl_append).trans left
  rw [final, circuit.relearnsDuring_append]
  by_cases kept :
      ¬ circuit.Relearns client (processCommands client rest commanded) ∧
        ¬ (circuit.RelearnsDuring client batches resumed ∨
          circuit.RelearnsDuring client [last]
            (runLoop client batches resumed))
  case pos =>
    rcases kept with ⟨keptFirst, keptLater⟩
    rcases not_or.mp keptLater with ⟨keptSecond, keptLast⟩
    have same : learned = cmd.floatVal := by
      rcases learnsFirst with ⟨relearns, -⟩ | ⟨-, rfl⟩
      · exact absurd relearns keptFirst
      rcases learnsSecond with ⟨relearns, -⟩ | ⟨-, rfl⟩
      · exact absurd relearns keptSecond
      rcases learnsLast with ⟨relearns, -⟩ | ⟨-, rfl⟩
      · exact absurd relearns keptLast
      · rfl
    rw [same]
    split
    case isTrue restored =>
      exact iff_of_true rfl
        (Or.inr ⟨restored.1, restored.2, keptFirst, keptLater⟩)
    case isFalse unrestored =>
      refine ⟨Or.inl, ?_⟩
      rintro (already | ⟨three, apart, -⟩)
      · exact already
      · exact absurd ⟨three, apart⟩ unrestored
  case neg =>
    have same : learned = rawToTemp held := by
      rcases learnsLast with ⟨-, rfl⟩ | ⟨keptLast, rfl⟩
      · rfl
      rcases learnsSecond with ⟨-, rfl⟩ | ⟨keptSecond, rfl⟩
      · rfl
      rcases learnsFirst with ⟨-, rfl⟩ | ⟨keptFirst, rfl⟩
      · rfl
      · exact absurd ⟨keptFirst, not_or.mpr ⟨keptSecond, keptLast⟩⟩ kept
    have within : ¬ (world.loop.desiredWorkingMode = 3 ∧
        Apart (rawToTemp held) learned) := by
      rw [same]
      exact fun both => not_apart_self _ both.2
    rw [if_neg within]
    refine ⟨Or.inl, ?_⟩
    rintro (already | ⟨-, -, keptFirst, keptLater⟩)
    · exact already
    · exact absurd ⟨keptFirst, keptLater⟩ kept

/-- A device that refuses writes as a script says, and then none. -/
def refusing : IModbusClient (List Bool × RegisterFile) where
  connect device := (true, device)
  disconnect device := device
  isConnected _ := true
  readRegister address device := (some (device.2 address), device)
  writeRegister address value device :=
    match device.1 with
    | false :: later => (false, later, device.2)
    | _ => (true, device.1.tail, Function.update device.2 address value)
  flushBuffer device := device

theorem refusing_soleMaster : SoleMaster refusing Prod.snd where
  connect _ := rfl
  read _ _ := rfl
  found _ _ _ answer := (Option.some.inj answer).symm
  accepted := by
    rintro address value ⟨_ | ⟨_ | _, later⟩, registers⟩ answer
    · rfl
    · cases answer
    · rfl
  refused := by
    rintro address value ⟨_ | ⟨_ | _, later⟩, registers⟩ answer
    · cases answer
    · exact Or.inl rfl
    · cases answer

/-- The DHW alone at 40 °C, and a device that refuses the next write. -/
def beforeRefusal : World (List Bool × RegisterFile) :=
  threadRun refusing
    { defaultSettings with workingMode := 1 }.loop ([false], fun _ => 400) []

def setDhwFifty : Command := { type := .setDhwTemp, floatVal := 50 }

theorem setpoint_recovered_iff_refused :
    (runLoop refusing [[]]
        (iteration refusing []
          (processCommand refusing setDhwFifty beforeRefusal))).held Prod.snd
      regDhwTarget = tempToRaw 50 ↔
      (processCommand refusing setDhwFifty beforeRefusal).held Prod.snd
          regDhwTarget = tempToRaw 50 ∨
        beforeRefusal.loop.desiredWorkingMode = 3 ∧
          Apart (rawToTemp ((processCommand refusing setDhwFifty
            beforeRefusal).held Prod.snd regDhwTarget)) 50 ∧
          ¬ dhwCircuit.Relearns refusing
            (processCommands refusing []
              (processCommand refusing setDhwFifty beforeRefusal)) ∧
          ¬ dhwCircuit.RelearnsDuring refusing [[]]
            (iteration refusing []
              (processCommand refusing setDhwFifty beforeRefusal)) :=
  @setpoint_recovered_iff _ refusing Prod.snd refusing_soleMaster dhwCircuit
    (List.mem_cons_self ..) beforeRefusal setDhwFifty rfl
    (by decide +kernel) (by decide +kernel) [] [] []
    (by simp [Circuit.Undisturbed]) ⟨by decide +kernel, by decide +kernel⟩

/-- A setpoint of the DHW alone whose write throws is never written again. -/
theorem setpoint_lost_after_refusal :
    beforeRefusal.loop.desiredWorkingMode = 1 ∧
      setDhwFifty.SetpointInRange ∧
      (refusing.writeRegister regDhwTarget (tempToRaw 50)
        beforeRefusal.bus.device).1 = false ∧
      FaultlessPass refusing [] (pass refusing [setDhwFifty] beforeRefusal) ∧
      (runLoop refusing [[setDhwFifty], []] beforeRefusal).held Prod.snd
        regDhwTarget ≠ tempToRaw 50 := by
  refine ⟨by decide +kernel, by decide +kernel, by decide +kernel, ?_,
    by decide +kernel⟩
  constructor
  · decide +kernel
  · decide +kernel

end Windmi.Core
