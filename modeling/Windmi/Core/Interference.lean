import Windmi.Core.Effects

/-!
# What an unsupported priority register does to the loop

Two runs over the same device, except that accesses to `REG_DHW_PRIORITY` fail
in one and succeed in the other.  Commands keep the two runs alike, but the
priority read decides the `ok` flag of a poll: the runs stay alike exactly as
long as some other critical read fails in every poll.
-/

namespace Windmi.Core

open Windmi.Modbus

/-! ## The two devices -/

/-- The device whose priority register is an illegal address. -/
def rejecting {Device : Type} (client : IModbusClient Device) :
    IModbusClient Device :=
  { client with
    readRegister := fun address device =>
      if address = regDhwPriority then (none, device)
      else client.readRegister address device
    writeRegister := fun address value device =>
      if address = regDhwPriority then (false, device)
      else client.writeRegister address value device }

/-- A priority register that answers every access, whatever it contains. -/
structure PriorityCell (Cell : Type) where
  read : Cell → Word × Cell
  write : Word → Cell → Cell

/-- The device with a priority register of its own. -/
def accepting {Device Cell : Type} (client : IModbusClient Device)
    (register : PriorityCell Cell) : IModbusClient (Device × Cell) where
  connect state :=
    let answer := client.connect state.1
    (answer.1, answer.2, state.2)
  disconnect state := (client.disconnect state.1, state.2)
  isConnected state := client.isConnected state.1
  readRegister address state :=
    if address = regDhwPriority then
      let answer := register.read state.2
      (some answer.1, state.1, answer.2)
    else
      let answer := client.readRegister address state.1
      (answer.1, answer.2, state.2)
  writeRegister address value state :=
    if address = regDhwPriority then
      (true, state.1, register.write value state.2)
    else
      let answer := client.writeRegister address value state.1
      (answer.1, answer.2, state.2)
  flushBuffer state := (client.flushBuffer state.1, state.2)

/-! ## What is compared -/

/-- The registers whose writes are compared. -/
def comparedRegisters : List Address :=
  [regRunningMode, regDhwTarget, regHeatingTarget, regOccupancyMode]

def Event.comparedWrite : Event → Option (Address × Word)
  | .write address value _ _ =>
      if address ∈ comparedRegisters then some (address, value) else none
  | _ => none

def comparedWrites (history : List Event) : List (Address × Word) :=
  history.filterMap Event.comparedWrite

theorem readStatus_comparedWrites {Device : Type}
    (client : IModbusClient Device) (world : World Device)
    (status : StatusSnapshot) :
    comparedWrites (readStatus client status world).world.bus.history =
      comparedWrites world.bus.history := by
  refine (readStatus_adds client world status).filterMap_eq ?_
  rintro event ⟨address, outcome, rfl⟩
  rfl

/-- Worlds that differ in the priority register and its copy only. -/
structure Alike {Device Cell : Type} (rejected : World Device)
    (accepted : World (Device × Cell)) : Prop where
  device : accepted.bus.device.1 = rejected.bus.device
  loop : accepted.loop =
    { rejected.loop with currentPriority := accepted.loop.currentPriority }
  flags : onlineFlags rejected.bus.history =
    onlineFlags accepted.bus.history
  writes : comparedWrites rejected.bus.history =
    comparedWrites accepted.bus.history

section

variable {Device Cell : Type} {rejected : World Device}
  {accepted : World (Device × Cell)}

/-! ## Commands keep the worlds alike -/

theorem Alike.emit (alike : Alike rejected accepted)
    {first second : Event} (flag : first.onlineFlag = second.onlineFlag)
    (write : first.comparedWrite = second.comparedWrite) :
    Alike (rejected.emit first) (accepted.emit second) where
  device := alike.device
  loop := alike.loop
  flags := by
    simp only [World.emit, onlineFlags, List.filterMap_cons, flag]
    rw [← onlineFlags, ← onlineFlags, alike.flags]
  writes := by
    simp only [World.emit, comparedWrites, List.filterMap_cons, write]
    rw [← comparedWrites, ← comparedWrites, alike.writes]

theorem Alike.updateLoop (alike : Alike rejected accepted)
    {first second : ControlLoop → ControlLoop}
    (update : ∀ loop priority, ∃ next,
      second { loop with currentPriority := priority } =
        { first loop with currentPriority := next }) :
    Alike (rejected.updateLoop first) (accepted.updateLoop second) where
  device := alike.device
  loop := by
    rcases update rejected.loop accepted.loop.currentPriority with
      ⟨next, equal⟩
    rw [← alike.loop] at equal
    simp only [World.updateLoop, equal]
  flags := alike.flags
  writes := alike.writes

theorem Alike.fireSettingsCallback (alike : Alike rejected accepted) :
    Alike rejected.fireSettingsCallback accepted.fireSettingsCallback :=
  alike.emit rfl rfl

theorem Alike.desired (alike : Alike rejected accepted) :
    accepted.loop.desiredWorkingMode =
      rejected.loop.desiredWorkingMode := by
  rw [alike.loop]

variable (client : IModbusClient Device) (register : PriorityCell Cell)

/-- A write to any other register reaches the common device. -/
theorem Alike.writeRegister (alike : Alike rejected accepted)
    {address : Address} (other : address ≠ regDhwPriority) (value : Word) :
    let first := rejected.writeRegister (rejecting client) address value
    let second :=
      accepted.writeRegister (accepting client register) address value
    first.1 = second.1 ∧ Alike first.2 second.2 := by
  intro first second
  have answer : first.1 = second.1 ∧
      second.2.bus.device.1 = first.2.bus.device := by
    simp only [first, second, World.writeRegister, rejecting, accepting,
      if_neg other, alike.device, and_self]
  refine ⟨answer.1, answer.2, alike.loop, alike.flags, ?_⟩
  have emitted : Alike
      (rejected.emit
        (.write address value first.1 rejected.loop.desiredWorkingMode))
      (accepted.emit
        (.write address value second.1 accepted.loop.desiredWorkingMode)) :=
    alike.emit rfl rfl
  exact emitted.writes

theorem Alike.writePriority (alike : Alike rejected accepted)
    (value : Word) (priority : PriorityMode) :
    Alike (writePriority (rejecting client) value priority rejected).2
      (writePriority (accepting client register) value priority
        accepted).2 where
  device := alike.device
  loop := by
    rw [writePriority_world, writePriority_world]
    simp only [World.writeRegister, rejecting, accepting, if_true,
      World.updateLoop]
    rw [alike.loop]
    rfl
  flags := alike.flags
  writes := alike.writes

theorem Alike.setRunningMode (alike : Alike rejected accepted)
    (mode : Int) :
    let first := setRunningMode (rejecting client) mode rejected
    let second := setRunningMode (accepting client register) mode accepted
    first.1 = second.1 ∧ Alike first.2 second.2 := by
  have other : regRunningMode ≠ regDhwPriority := by decide
  rcases alike.writeRegister client register other (BitVec.ofInt 16 mode) with
    ⟨answer, written⟩
  simp only [Windmi.Core.setRunningMode, answer]
  split_ifs
  · exact ⟨rfl, alike⟩
  · exact ⟨rfl, written⟩
  · exact ⟨rfl, written⟩

theorem Alike.setDhwTarget (alike : Alike rejected accepted) (temp : ℚ) :
    Alike (setDhwTarget (rejecting client) temp rejected).2
      (setDhwTarget (accepting client register) temp accepted).2 := by
  have other : regDhwTarget ≠ regDhwPriority := by decide
  rcases alike.writeRegister client register other (tempToRaw temp) with
    ⟨answer, written⟩
  rw [setDhwTarget_world, setDhwTarget_world]
  simp only [answer]
  split_ifs
  · refine Alike.fireSettingsCallback ?_
    exact written.updateLoop fun _ priority => ⟨priority, rfl⟩
  · exact written

theorem Alike.setHeatingTarget (alike : Alike rejected accepted)
    (temp : ℚ) :
    Alike (setHeatingTarget (rejecting client) temp rejected).2
      (setHeatingTarget (accepting client register) temp accepted).2 := by
  have other : regHeatingTarget ≠ regDhwPriority := by decide
  rcases alike.writeRegister client register other (tempToRaw temp) with
    ⟨answer, written⟩
  rw [setHeatingTarget_world, setHeatingTarget_world]
  simp only [answer]
  split_ifs
  · refine Alike.fireSettingsCallback ?_
    exact written.updateLoop fun _ priority => ⟨priority, rfl⟩
  · exact written

theorem Alike.overrideTargets (alike : Alike rejected accepted)
    (workingMode : Int) :
    Alike (overrideTargets (rejecting client) workingMode rejected)
      (overrideTargets (accepting client register) workingMode
        accepted) := by
  unfold Windmi.Core.overrideTargets
  split
  · have heating := alike.setHeatingTarget client register heatingTargetMin
    exact heating.writePriority client register 1 .dhw
  · have dhw := alike.setDhwTarget client register dhwTargetMin
    exact dhw.writePriority client register 0 .heating
  · have sameDhw : accepted.loop.savedDhwTarget =
        rejected.loop.savedDhwTarget := by
      rw [alike.loop]
    have dhw := alike.setDhwTarget client register
      rejected.loop.savedDhwTarget
    have sameHeating :
        (Windmi.Core.setDhwTarget (accepting client register)
            rejected.loop.savedDhwTarget accepted).2.loop.savedHeatingTarget =
          (Windmi.Core.setDhwTarget (rejecting client)
            rejected.loop.savedDhwTarget
              rejected).2.loop.savedHeatingTarget := by
      rw [dhw.loop]
    have heating := dhw.setHeatingTarget client register
      (Windmi.Core.setDhwTarget (rejecting client)
        rejected.loop.savedDhwTarget rejected).2.loop.savedHeatingTarget
    rw [sameDhw]
    dsimp only
    rw [sameHeating]
    exact heating.writePriority client register 1 .dhw
  · exact alike

/-- Only the run with the register calls back after a priority command. -/
theorem Alike.processSetPriority (alike : Alike rejected accepted)
    (value : Int) :
    Alike (processSetPriority (rejecting client) value rejected)
      (processSetPriority (accepting client register) value accepted) := by
  have written := alike.writePriority client register
    (BitVec.ofInt 16 value) (if value = 1 then .dhw else .heating)
  exact
    { device := written.device
      loop := written.loop
      flags := written.flags
      writes := written.writes }

theorem Alike.processSetRunningMode (alike : Alike rejected accepted)
    (workingMode : Int) :
    Alike (processSetRunningMode (rejecting client) workingMode rejected)
      (processSetRunningMode (accepting client register) workingMode
        accepted) := by
  have commanded : Alike
      (rejected.updateLoop fun loop =>
        { loop with desiredWorkingMode := workingMode }).fireSettingsCallback
      (accepted.updateLoop fun loop =>
        { loop with
          desiredWorkingMode := workingMode }).fireSettingsCallback := by
    refine Alike.fireSettingsCallback ?_
    exact alike.updateLoop fun _ priority => ⟨priority, rfl⟩
  rcases commanded.setRunningMode client register (targetDeviceMode workingMode)
      with
    ⟨answer, written⟩
  simp only [Windmi.Core.processSetRunningMode, answer]
  split_ifs
  · refine Alike.overrideTargets client register ?_ workingMode
    exact written.updateLoop fun _ priority => ⟨priority, rfl⟩
  · exact written

theorem Alike.processCommand (alike : Alike rejected accepted)
    (cmd : Command) :
    Alike (processCommand (rejecting client) cmd rejected)
      (processCommand (accepting client register) cmd accepted) := by
  have popped : Alike (rejected.emit (.command cmd))
      (accepted.emit (.command cmd)) :=
    alike.emit rfl rfl
  unfold Windmi.Core.processCommand
  cases cmd.type with
  | setDhwTemp =>
      have written := popped.setDhwTarget client register cmd.floatVal
      exact written.updateLoop fun _ priority => ⟨priority, rfl⟩
  | setHeatingTemp =>
      have written := popped.setHeatingTarget client register cmd.floatVal
      exact written.updateLoop fun _ priority => ⟨priority, rfl⟩
  | setPriority => exact popped.processSetPriority client register _
  | setRunningMode => exact popped.processSetRunningMode client register _
  | setOccupancyMode =>
      have other : regOccupancyMode ≠ regDhwPriority := by decide
      exact (popped.writeRegister client register other _).2

theorem Alike.processCommands (alike : Alike rejected accepted)
    (batch : List Command) :
    Alike (processCommands (rejecting client) batch rejected)
      (processCommands (accepting client register) batch accepted) := by
  induction batch generalizing rejected accepted with
  | nil => exact alike
  | cons cmd batch ih => exact ih (alike.processCommand client register cmd)

/-! ## Polls -/

/-- The reads of a poll differ in the priority register only. -/
theorem readAll_alike (addresses : List Address) (device : Device)
    (cell : Cell) :
    let first := readAll (rejecting client) addresses device
    let second := readAll (accepting client register) addresses (device, cell)
    second.2.1 = first.2 ∧
      (∀ address, address ≠ regDhwPriority →
        second.1 address = first.1 address) ∧
      first.1 regDhwPriority = none ∧
      (regDhwPriority ∈ addresses →
        (second.1 regDhwPriority).isSome) := by
  induction addresses generalizing device cell with
  | nil => exact ⟨rfl, fun _ _ => rfl, rfl, by simp⟩
  | cons head addresses ih =>
      by_cases priority : head = regDhwPriority
      · rcases ih device (register.read cell).2 with
          ⟨sameDevice, sameOutcome, failed, -⟩
        simp only [readAll, rejecting, accepting, priority, if_true]
        refine ⟨sameDevice, ?_, by simp, by simp⟩
        intro address other
        rw [Function.update_of_ne other, Function.update_of_ne other]
        exact sameOutcome address other
      · rcases ih (client.readRegister head device).2 cell with
          ⟨sameDevice, sameOutcome, failed, answered⟩
        simp only [readAll, rejecting, accepting, priority, if_false]
        refine ⟨sameDevice, ?_, ?_, ?_⟩
        · intro address other
          by_cases same : address = head
          · rw [same, Function.update_self, Function.update_self]
          · rw [Function.update_of_ne same, Function.update_of_ne same]
            exact sameOutcome address other
        · rw [Function.update_of_ne (Ne.symm priority)]
          exact failed
        · intro member
          rw [Function.update_of_ne (Ne.symm priority)]
          rcases List.mem_cons.mp member with same | inside
          · exact absurd same.symm priority
          · exact answered inside

/-- Another critical read of the poll made in this world fails. -/
def MissesOther (client : IModbusClient Device) (world : World Device) :
    Prop :=
  ∃ address ∈ criticalRegisters, address ≠ regDhwPriority ∧
    (pollReads client world.bus.device).1 address = none

theorem pollOk_eq_false_iff {outcome : Outcomes} :
    pollOk outcome = false ↔
      ∃ address ∈ criticalRegisters, outcome address = none := by
  simp [pollOk, List.all_eq_false]

/--
The poll fails without the priority register.  With it the poll fails as well
only if it misses something else, and then the worlds stay alike.
-/
theorem Alike.poll (alike : Alike rejected accepted) :
    let first := readStatus (rejecting client) {} rejected
    let second := readStatus (accepting client register) {} accepted
    first.ok = false ∧
      (second.ok = false ↔ MissesOther (rejecting client) rejected) ∧
      (second.ok = false → Alike first.world second.world) := by
  intro first second
  let reads := pollReads (rejecting client) rejected.bus.device
  let other := pollReads (accepting client register) accepted.bus.device
  have pair : accepted.bus.device =
      (rejected.bus.device, accepted.bus.device.2) :=
    Prod.ext alike.device rfl
  rcases readAll_alike client register polledRegisters rejected.bus.device
      accepted.bus.device.2 with
    ⟨sameDevice, sameOutcome, failed, answered⟩
  rw [← pair] at sameDevice sameOutcome answered
  have firstEqual : first = pollWith reads.1 reads.2 {} rejected :=
    readStatus_spec ..
  have secondEqual : second = pollWith other.1 other.2 {} accepted :=
    readStatus_spec ..
  have firstFails : pollOk reads.1 = false :=
    pollOk_eq_false_iff.mpr ⟨regDhwPriority, by decide, failed⟩
  refine ⟨?_, ?_, ?_⟩
  · rw [firstEqual]
    exact firstFails
  · have ok : second.ok = pollOk other.1 := by rw [secondEqual]; rfl
    rw [ok, pollOk_eq_false_iff]
    constructor
    · rintro ⟨address, critical, missing⟩
      have different : address ≠ regDhwPriority := by
        rintro rfl
        have present : (other.1 regDhwPriority).isSome :=
          answered (by decide)
        rw [missing] at present
        exact absurd present (by decide)
      refine ⟨address, critical, different, ?_⟩
      rw [← missing]
      exact (sameOutcome address different).symm
    · rintro ⟨address, critical, different, missing⟩
      exact ⟨address, critical, (sameOutcome address different).trans missing⟩
  · intro secondFails
    have sameOk : pollOk other.1 = pollOk reads.1 := by
      rw [secondEqual] at secondFails
      rw [firstFails]
      exact secondFails
    have mode : other.1 regRunningMode = reads.1 regRunningMode :=
      sameOutcome _ (by decide)
    have dhw : other.1 regDhwTarget = reads.1 regDhwTarget :=
      sameOutcome _ (by decide)
    have heating : other.1 regHeatingTarget = reads.1 regHeatingTarget :=
      sameOutcome _ (by decide)
    rw [firstEqual, secondEqual]
    constructor
    case device => exact sameDevice
    case loop =>
      change observe other.1 accepted.loop =
        { observe reads.1 rejected.loop with
          currentPriority := (observe other.1 accepted.loop).currentPriority }
      rw [observe_eq, observe_eq, mode, dhw, heating, sameOk, alike.loop]
    case flags =>
      have firstFlags := readStatus_onlineFlags (rejecting client) rejected {}
      have secondFlags :=
        readStatus_onlineFlags (accepting client register) accepted {}
      rw [readStatus_spec] at firstFlags secondFlags
      exact firstFlags.trans (alike.flags.trans secondFlags.symm)
    case writes =>
      have firstWrites :=
        readStatus_comparedWrites (rejecting client) rejected {}
      have secondWrites :=
        readStatus_comparedWrites (accepting client register) accepted {}
      rw [readStatus_spec] at firstWrites secondWrites
      exact firstWrites.trans (alike.writes.trans secondWrites.symm)

end

/-! ## Whole runs -/

/-- Every poll of the run misses some other critical register. -/
def PollsMissOther {Device : Type} (client : IModbusClient Device) :
    List (List Command) → World Device → Prop
  | [], _ => True
  | batch :: batches, world =>
      MissesOther client (processCommands client batch world) ∧
        PollsMissOther client batches (iteration client batch world)

section

variable {Device Cell : Type} {rejected : World Device}
  {accepted : World (Device × Cell)}
  (client : IModbusClient Device) (register : PriorityCell Cell)

theorem iteration_alike (alike : Alike rejected accepted)
    {batch : List Command}
    (misses : MissesOther (rejecting client)
      (processCommands (rejecting client) batch rejected)) :
    Alike (iteration (rejecting client) batch rejected)
      (iteration (accepting client register) batch accepted) := by
  have commanded := alike.processCommands client register batch
  rcases commanded.poll client register with ⟨firstFails, secondFails, polled⟩
  have secondFailed := secondFails.mpr misses
  unfold iteration concludeIteration
  rw [if_neg (by rw [firstFails]; decide),
    if_neg (by rw [secondFailed]; decide)]
  exact (polled secondFailed).emit rfl rfl

/-- Once a poll misses only the priority, the published flags differ. -/
theorem onlineFlags_differ (alike : Alike rejected accepted)
    {batch : List Command} (batches : List (List Command))
    (complete : ¬ MissesOther (rejecting client)
      (processCommands (rejecting client) batch rejected)) :
    onlineFlags
        (iterations (rejecting client) (batch :: batches)
          rejected).bus.history ≠
      onlineFlags
        (iterations (accepting client register) (batch :: batches)
          accepted).bus.history := by
  have commanded := alike.processCommands client register batch
  rcases commanded.poll client register with ⟨firstFails, secondFails, -⟩
  have secondSucceeds :
      (readStatus (accepting client register) {}
        (processCommands (accepting client register) batch
          accepted)).ok = true :=
    Bool.eq_true_of_not_eq_false (mt secondFails.mp complete)
  rcases iterations_onlineFlags (rejecting client)
      (iteration (rejecting client) batch rejected) batches with
    ⟨flags, count, firstFlags⟩
  rcases iterations_onlineFlags (accepting client register)
      (iteration (accepting client register) batch accepted)
      batches with
    ⟨otherFlags, otherCount, secondFlags⟩
  rw [iteration_onlineFlags, firstFails] at firstFlags
  rw [iteration_onlineFlags, secondSucceeds] at secondFlags
  intro equal
  have lists : flags ++ false :: onlineFlags rejected.bus.history =
      otherFlags ++ true :: onlineFlags accepted.bus.history :=
    firstFlags.symm.trans (equal.trans secondFlags)
  have tails := List.append_inj_right lists (count.trans otherCount.symm)
  exact absurd (List.cons.inj tails).1 (by decide)

theorem iterations_alike_iff (alike : Alike rejected accepted)
    (batches : List (List Command)) :
    let first := iterations (rejecting client) batches rejected
    let second := iterations (accepting client register) batches accepted
    onlineFlags first.bus.history = onlineFlags second.bus.history ∧
        comparedWrites first.bus.history =
          comparedWrites second.bus.history ↔
      PollsMissOther (rejecting client) batches rejected := by
  induction batches generalizing rejected accepted with
  | nil => exact iff_of_true ⟨alike.flags, alike.writes⟩ trivial
  | cons batch batches ih =>
      by_cases misses : MissesOther (rejecting client)
          (processCommands (rejecting client) batch rejected)
      · have tail := ih (iteration_alike client register alike misses)
        exact tail.trans (and_iff_right misses).symm
      · have differ := onlineFlags_differ client register alike batches misses
        exact iff_of_false (fun equal => differ equal.1)
          (fun throughout => misses throughout.1)

end

/--
Two runs from one initial state over the same device, one without the priority
register and one with it, publish the same flags and make the same writes
exactly if every poll of the run without it misses another critical register.
-/
theorem priority_noninterference_iff {Device Cell : Type}
    (client : IModbusClient Device) (register : PriorityCell Cell)
    (loop : ControlLoop) (device : Device) (cell : Cell)
    (batches : List (List Command)) :
    let start : World Device :=
      { loop := loop, bus := { device := device, history := [] } }
    let rejected := iterations (rejecting client) batches start
    let accepted :=
      iterations (accepting client register) batches
        { loop := loop, bus := { device := (device, cell), history := [] } }
    onlineFlags rejected.bus.history = onlineFlags accepted.bus.history ∧
        comparedWrites rejected.bus.history =
          comparedWrites accepted.bus.history ↔
      PollsMissOther (rejecting client) batches start := by
  intro start rejected accepted
  have alike : Alike start
      { loop := loop, bus := { device := (device, cell), history := [] } } :=
    { device := rfl, loop := rfl, flags := rfl, writes := rfl }
  exact iterations_alike_iff client register alike batches

/-- A healthy device is offline only for want of its priority register. -/
theorem priority_interferes :
    let client := registerFile
    let register : PriorityCell Word :=
      { read := fun word => (word, word), write := fun word _ => word }
    let rejected :=
      iterations (rejecting client) [[]]
        { loop := {}, bus := { device := fun _ => 0, history := [] } }
    let accepted :=
      iterations (accepting client register) [[]]
        { loop := {}, bus := { device := (fun _ => 0, 0), history := [] } }
    ¬ (onlineFlags rejected.bus.history = onlineFlags accepted.bus.history ∧
        comparedWrites rejected.bus.history =
          comparedWrites accepted.bus.history) := by
  decide +kernel

end Windmi.Core
