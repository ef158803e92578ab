import Windmi.Core.Effects

/-!
# Devices that the loop cannot tell apart

A view says what is seen of an event.  If two devices answer alike to the
reads of the control registers and to all writes, and show the same of every
read, then the control state of the loop stays the same on both, and so does
what is seen of its history.
-/

namespace Windmi.Core

open Windmi.Modbus

/-! ## What is compared -/

/-- The registers which the control logic reads, and the priority. -/
def controlRegisters : List Address :=
  [regRunningMode, regDhwTarget, regHeatingTarget, regDhwPriority]

/-- What is seen of an event, if anything. -/
abbrev View := Event → Option Event

def View.seen (view : View) (history : List Event) : List Event :=
  history.filterMap view

/-- Two polls that the control logic cannot tell apart. -/
structure SameOutcomes (view : View) (outcome outcome' : Outcomes) :
    Prop where
  control : ∀ address ∈ controlRegisters,
    outcome address = outcome' address
  critical : ∀ address ∈ criticalRegisters,
    (outcome address).isSome = (outcome' address).isSome
  reads : ∀ address,
    view (.read address (outcome address)) =
      view (.read address (outcome' address))

/-- Nothing is seen of a snapshot that polls alike do not share. -/
def View.Coherent (view : View) : Prop :=
  ∀ {outcome outcome' : Outcomes}, SameOutcomes view outcome outcome' →
    ∀ loop mode online,
      view (.publish
          { (pollFrame outcome {} loop).status with
            workingMode := mode
            deviceOnline := online }) =
        view (.publish
          { (pollFrame outcome' {} loop).status with
            workingMode := mode
            deviceOnline := online })

/--
Two clients that stay connected and keep their devices related; related
devices answer alike, as far as the control logic and the view look.
-/
structure Mirrors {First Second : Type} (view : View)
    (first : IModbusClient First) (second : IModbusClient Second)
    (related : First → Second → Prop) : Prop where
  read : ∀ device other, related device other → ∀ address,
    related (first.readRegister address device).2
      (second.readRegister address other).2
  control : ∀ device other, related device other →
    ∀ address ∈ controlRegisters,
      (first.readRegister address device).1 =
        (second.readRegister address other).1
  critical : ∀ device other, related device other →
    ∀ address ∈ criticalRegisters,
      (first.readRegister address device).1.isSome =
        (second.readRegister address other).1.isSome
  reads : ∀ device other, related device other → ∀ address,
    view (.read address (first.readRegister address device).1) =
      view (.read address (second.readRegister address other).1)
  write : ∀ device other, related device other → ∀ address value,
    (first.writeRegister address value device).1 =
        (second.writeRegister address value other).1 ∧
      related (first.writeRegister address value device).2
        (second.writeRegister address value other).2
  connected : ∀ device other, related device other →
    first.isConnected device = true ∧ second.isConnected other = true
  coherent : view.Coherent

variable {First Second : Type} {view : View} {first : IModbusClient First}
  {second : IModbusClient Second} {related : First → Second → Prop}

/-- The loop has decided alike so far, on related devices. -/
structure Mirrored (view : View) (related : First → Second → Prop)
    (world : World First) (other : World Second) : Prop where
  device : related world.bus.device other.bus.device
  loop : world.loop = other.loop
  seen : view.seen world.bus.history = view.seen other.bus.history

section

variable {world : World First} {other : World Second}

/-! ## Commands and control logic -/

theorem Mirrored.emit_both (mirrored : Mirrored view related world other)
    {event event' : Event} (same : view event = view event') :
    Mirrored view related (world.emit event) (other.emit event') where
  device := mirrored.device
  loop := mirrored.loop
  seen := by
    show List.filterMap _ (_ :: _) = List.filterMap _ (_ :: _)
    rw [List.filterMap_cons, List.filterMap_cons, same]
    have before := mirrored.seen
    unfold View.seen at before
    rw [before]

theorem Mirrored.emit (mirrored : Mirrored view related world other)
    (event : Event) :
    Mirrored view related (world.emit event) (other.emit event) :=
  mirrored.emit_both rfl

theorem Mirrored.updateLoop (mirrored : Mirrored view related world other)
    (update : ControlLoop → ControlLoop) :
    Mirrored view related (world.updateLoop update)
      (other.updateLoop update) where
  device := mirrored.device
  loop := congrArg update mirrored.loop
  seen := mirrored.seen

theorem Mirrored.fireSettingsCallback
    (mirrored : Mirrored view related world other) :
    Mirrored view related world.fireSettingsCallback
      other.fireSettingsCallback := by
  unfold World.fireSettingsCallback
  rw [mirrored.loop]
  exact mirrored.emit _

variable (mirrors : Mirrors view first second related)

include mirrors

theorem Mirrored.writeRegister (mirrored : Mirrored view related world other)
    (address : Address) (value : Word) :
    (world.writeRegister first address value).1 =
        (other.writeRegister second address value).1 ∧
      Mirrored view related (world.writeRegister first address value).2
        (other.writeRegister second address value).2 := by
  rcases mirrors.write _ _ mirrored.device address value with
    ⟨answer, device⟩
  refine ⟨answer, device, mirrored.loop, ?_⟩
  have logged := mirrored.emit
    (.write address value
      (first.writeRegister address value world.bus.device).1
      world.loop.desiredWorkingMode)
  have written := logged.seen
  show view.seen (_ :: _) = view.seen (_ :: _)
  rw [← answer, ← mirrored.loop]
  exact written

theorem Mirrored.setRunningMode (mirrored : Mirrored view related world other)
    (mode : Int) :
    (setRunningMode first mode world).1 =
        (setRunningMode second mode other).1 ∧
      Mirrored view related (setRunningMode first mode world).2
        (setRunningMode second mode other).2 := by
  rcases mirrored.writeRegister mirrors regRunningMode
    (BitVec.ofInt 16 mode) with ⟨answer, written⟩
  simp only [Core.setRunningMode, answer]
  split_ifs
  · exact ⟨rfl, mirrored⟩
  · exact ⟨rfl, written⟩
  · exact ⟨rfl, written⟩

theorem Mirrored.setDhwTarget (mirrored : Mirrored view related world other)
    (temp : ℚ) :
    Mirrored view related (setDhwTarget first temp world).2
      (setDhwTarget second temp other).2 := by
  rcases mirrored.writeRegister mirrors regDhwTarget (tempToRaw temp) with
    ⟨answer, written⟩
  rw [setDhwTarget_world, setDhwTarget_world]
  simp only [answer]
  split
  · exact (written.updateLoop _).fireSettingsCallback
  · exact written

theorem Mirrored.setHeatingTarget (mirrored : Mirrored view related world other)
    (temp : ℚ) :
    Mirrored view related (setHeatingTarget first temp world).2
      (setHeatingTarget second temp other).2 := by
  rcases mirrored.writeRegister mirrors regHeatingTarget
    (tempToRaw temp) with ⟨answer, written⟩
  rw [setHeatingTarget_world, setHeatingTarget_world]
  simp only [answer]
  split
  · exact (written.updateLoop _).fireSettingsCallback
  · exact written

theorem Mirrored.writePriority (mirrored : Mirrored view related world other)
    (value : Word) (priority : PriorityMode) :
    (writePriority first value priority world).1 =
        (writePriority second value priority other).1 ∧
      Mirrored view related (writePriority first value priority world).2
        (writePriority second value priority other).2 := by
  rcases mirrored.writeRegister mirrors regDhwPriority value with
    ⟨answer, written⟩
  unfold Core.writePriority
  simp only [answer]
  split
  · have followed := written.updateLoop fun loop =>
      { loop with currentPriority := priority }
    exact ⟨rfl, followed⟩
  · exact ⟨answer, written⟩

theorem Mirrored.overrideTargets (mirrored : Mirrored view related world other)
    (workingMode : Int) :
    Mirrored view related (overrideTargets first workingMode world)
      (overrideTargets second workingMode other) := by
  unfold Core.overrideTargets
  split
  · have heating := mirrored.setHeatingTarget mirrors heatingTargetMin
    exact (heating.writePriority mirrors 1 .dhw).2
  · have dhw := mirrored.setDhwTarget mirrors dhwTargetMin
    exact (dhw.writePriority mirrors 0 .heating).2
  · have dhw := mirrored.setDhwTarget mirrors world.loop.savedDhwTarget
    have heating := dhw.setHeatingTarget mirrors
      (Core.setDhwTarget first world.loop.savedDhwTarget
        world).2.loop.savedHeatingTarget
    rw [← mirrored.loop]
    dsimp only
    rw [← dhw.loop]
    exact (heating.writePriority mirrors 1 .dhw).2
  · exact mirrored

theorem Mirrored.processSetPriority
    (mirrored : Mirrored view related world other) (value : Int) :
    Mirrored view related (processSetPriority first value world)
      (processSetPriority second value other) := by
  unfold Core.processSetPriority
  generalize (if value = 1 then PriorityMode.dhw else .heating) = priority
  rcases mirrored.writePriority mirrors (BitVec.ofInt 16 value) priority with
    ⟨answer, written⟩
  simp only [answer]
  split
  · exact written.fireSettingsCallback
  · exact written

theorem Mirrored.processSetRunningMode
    (mirrored : Mirrored view related world other) (workingMode : Int) :
    Mirrored view related (processSetRunningMode first workingMode world)
      (processSetRunningMode second workingMode other) := by
  have commanded := (mirrored.updateLoop fun loop =>
    { loop with desiredWorkingMode := workingMode }).fireSettingsCallback
  rcases commanded.setRunningMode mirrors (targetDeviceMode workingMode) with
    ⟨answer, written⟩
  simp only [Core.processSetRunningMode, answer]
  split
  · exact (written.updateLoop _).overrideTargets mirrors workingMode
  · exact written

theorem Mirrored.processCommand (mirrored : Mirrored view related world other)
    (cmd : Command) :
    Mirrored view related (processCommand first cmd world)
      (processCommand second cmd other) := by
  have popped := mirrored.emit (.command cmd)
  unfold Core.processCommand
  cases cmd.type with
  | setDhwTemp =>
      exact (popped.setDhwTarget mirrors cmd.floatVal).updateLoop _
  | setHeatingTemp =>
      exact (popped.setHeatingTarget mirrors cmd.floatVal).updateLoop _
  | setPriority => exact popped.processSetPriority mirrors cmd.intVal
  | setRunningMode => exact popped.processSetRunningMode mirrors cmd.intVal
  | setOccupancyMode =>
      exact (popped.writeRegister mirrors regOccupancyMode _).2

theorem Mirrored.processCommands (mirrored : Mirrored view related world other)
    (batch : List Command) :
    Mirrored view related (processCommands first batch world)
      (processCommands second batch other) := by
  induction batch generalizing world other with
  | nil => exact mirrored
  | cons cmd batch ih => exact ih (mirrored.processCommand mirrors cmd)

theorem Mirrored.correctDeviceMode
    (mirrored : Mirrored view related world other) :
    Mirrored view related (correctDeviceMode first world)
      (correctDeviceMode second other) := by
  rcases mirrored.setRunningMode mirrors
    (desiredDeviceMode world.loop.desiredWorkingMode) with ⟨answer, written⟩
  unfold Core.correctDeviceMode
  rw [← mirrored.loop]
  simp only [answer]
  split_ifs
  · exact written.updateLoop _
  · exact written
  · exact mirrored

/-- The targets of two snapshots, where the control logic reads them. -/
structure SameTargets (status other : StatusSnapshot) : Prop where
  dhw : status.dhwTarget = other.dhwTarget
  heating : status.heatingTarget = other.heatingTarget

theorem Mirrored.restoreDhwTarget (mirrored : Mirrored view related world other)
    {status status' : StatusSnapshot} (same : SameTargets status status') :
    Mirrored view related (restoreDhwTarget first status world)
      (restoreDhwTarget second status' other) := by
  unfold Core.restoreDhwTarget
  rw [← mirrored.loop, ← same.dhw]
  split
  · exact mirrored.setDhwTarget mirrors _
  · exact mirrored

theorem Mirrored.restoreHeatingTarget
    (mirrored : Mirrored view related world other)
    {status status' : StatusSnapshot} (same : SameTargets status status') :
    Mirrored view related (restoreHeatingTarget first status world)
      (restoreHeatingTarget second status' other) := by
  unfold Core.restoreHeatingTarget
  rw [← mirrored.loop, ← same.heating]
  split
  · exact mirrored.setHeatingTarget mirrors _
  · exact mirrored

theorem Mirrored.enforceTargets (mirrored : Mirrored view related world other)
    {status status' : StatusSnapshot} (same : SameTargets status status') :
    Mirrored view related (enforceTargets first status world)
      (enforceTargets second status' other) := by
  unfold Core.enforceTargets
  rw [← mirrored.loop, ← same.dhw, ← same.heating]
  split
  · split
    · exact mirrored.setHeatingTarget mirrors _
    · exact mirrored
  · split
    · exact mirrored.setDhwTarget mirrors _
    · exact mirrored
  · exact (mirrored.restoreDhwTarget mirrors same).restoreHeatingTarget
      mirrors same
  · exact mirrored

theorem Mirrored.enforcePriority
    (mirrored : Mirrored view related world other) :
    Mirrored view related (enforcePriority first world)
      (enforcePriority second other) := by
  unfold Core.enforcePriority
  rw [← mirrored.loop]
  split
  · split
    · exact (mirrored.writePriority mirrors 1 .dhw).2
    · exact mirrored
  · split
    · exact (mirrored.writePriority mirrors 1 .dhw).2
    · exact mirrored
  · split
    · exact (mirrored.writePriority mirrors 0 .heating).2
    · exact mirrored
  · exact mirrored

theorem Mirrored.applyControlLogic
    (mirrored : Mirrored view related world other)
    {status status' : StatusSnapshot} (same : SameTargets status status') :
    Mirrored view related (applyControlLogic first status world)
      (applyControlLogic second status' other) := by
  have started := mirrored.emit .control
  have corrected := started.correctDeviceMode mirrors
  exact (corrected.enforceTargets mirrors same).enforcePriority mirrors

/-! ## Polls -/

theorem Mirrors.readAll_device {device : First} {device' : Second}
    (same : related device device') (addresses : List Address) :
    related (readAll first addresses device).2
      (readAll second addresses device').2 := by
  induction addresses generalizing device device' with
  | nil => exact same
  | cons head addresses ih =>
      exact ih (mirrors.read device device' same head)

/-- What the answers of related devices satisfy, the outcomes satisfy. -/
theorem Mirrors.readAll_outcomes
    (relation : Address → Option Word → Option Word → Prop)
    (missing : ∀ address, relation address none none)
    (answers : ∀ device other, related device other → ∀ address,
      relation address (first.readRegister address device).1
        (second.readRegister address other).1)
    {device : First} {device' : Second} (same : related device device')
    (addresses : List Address) (address : Address) :
    relation address ((readAll first addresses device).1 address)
      ((readAll second addresses device').1 address) := by
  induction addresses generalizing device device' with
  | nil => exact missing address
  | cons head addresses ih =>
      have later := ih (mirrors.read device device' same head)
      simp only [Core.readAll]
      by_cases now : address = head
      · subst now
        rw [Function.update_self, Function.update_self]
        exact answers device device' same address
      · rw [Function.update_of_ne now, Function.update_of_ne now]
        exact later

theorem Mirrors.readAll {device : First} {device' : Second}
    (same : related device device') (addresses : List Address) :
    related (readAll first addresses device).2
        (readAll second addresses device').2 ∧
      SameOutcomes view (readAll first addresses device).1
        (readAll second addresses device').1 := by
  refine ⟨mirrors.readAll_device same addresses, ?_, ?_, ?_⟩
  · exact mirrors.readAll_outcomes
      (fun address outcome outcome' =>
        address ∈ controlRegisters → outcome = outcome')
      (fun _ _ => rfl) mirrors.control same addresses
  · exact mirrors.readAll_outcomes
      (fun address outcome outcome' =>
        address ∈ criticalRegisters → outcome.isSome = outcome'.isSome)
      (fun _ _ => rfl) mirrors.critical same addresses
  · exact mirrors.readAll_outcomes
      (fun address outcome outcome' =>
        view (.read address outcome) = view (.read address outcome'))
      (fun _ => rfl) mirrors.reads same addresses

omit mirrors in
theorem SameOutcomes.pollOk {outcome outcome' : Outcomes}
    (same : SameOutcomes view outcome outcome') :
    pollOk outcome = pollOk outcome' := by
  rw [Bool.eq_iff_iff, Core.pollOk, Core.pollOk, List.all_eq_true,
    List.all_eq_true]
  exact forall₂_congr fun address member => by
    rw [same.critical address member]

omit mirrors in
theorem SameOutcomes.observe {outcome outcome' : Outcomes}
    (same : SameOutcomes view outcome outcome') (loop : ControlLoop) :
    observe outcome loop = observe outcome' loop := by
  unfold Core.observe
  rw [same.control regRunningMode (by decide),
    same.control regDhwTarget (by decide),
    same.control regHeatingTarget (by decide), same.pollOk]

omit mirrors in
theorem SameOutcomes.pollFrame {outcome outcome' : Outcomes}
    (same : SameOutcomes view outcome outcome') (loop : ControlLoop) :
    SameTargets (pollFrame outcome {} loop).status
      (pollFrame outcome' {} loop).status where
  dhw := by
    rw [pollFrame_dhwTarget, pollFrame_dhwTarget,
      same.control regDhwTarget (by decide)]
  heating := by
    rw [pollFrame_heatingTarget, pollFrame_heatingTarget,
      same.control regHeatingTarget (by decide)]

omit mirrors in
theorem SameOutcomes.seen_reads {outcome outcome' : Outcomes}
    (same : SameOutcomes view outcome outcome') (addresses : List Address)
    {history history' : List Event}
    (before : view.seen history = view.seen history') :
    view.seen (readEvents outcome addresses ++ history) =
      view.seen (readEvents outcome' addresses ++ history') := by
  have reads : view.seen (readEvents outcome addresses) =
      view.seen (readEvents outcome' addresses) := by
    unfold View.seen readEvents
    rw [List.filterMap_reverse, List.filterMap_reverse,
      List.filterMap_map, List.filterMap_map]
    exact congrArg List.reverse
      (List.filterMap_congr fun address _ => same.reads address)
  unfold View.seen at before reads ⊢
  rw [List.filterMap_append, List.filterMap_append, before, reads]

/-- A poll that finds the same, as far as the view and the control look. -/
structure SamePoll (view : View) (related : First → Second → Prop)
    (poll : Poll First) (poll' : Poll Second) : Prop where
  ok : poll.ok = poll'.ok
  world : Mirrored view related poll.world poll'.world
  targets : SameTargets poll.status poll'.status
  online : poll.status.deviceOnline = poll'.status.deviceOnline
  published : ∀ mode online,
    view (.publish
        { poll.status with workingMode := mode, deviceOnline := online }) =
      view (.publish
        { poll'.status with workingMode := mode, deviceOnline := online })

theorem Mirrored.readStatus (mirrored : Mirrored view related world other) :
    SamePoll view related (readStatus first {} world)
      (readStatus second {} other) := by
  rcases mirrors.readAll mirrored.device polledRegisters with
    ⟨device, same⟩
  rw [readStatus_spec, readStatus_spec]
  unfold pollWith
  rw [← mirrored.loop]
  exact {
    ok := same.pollOk
    world := {
      device := device
      loop := same.observe world.loop
      seen := same.seen_reads polledRegisters mirrored.seen }
    targets := same.pollFrame world.loop
    online := by
      rw [pollFrame_deviceOnline, pollFrame_deviceOnline]
      exact same.pollOk
    published := mirrors.coherent same world.loop }

/-! ## Iterations and runs -/

theorem SamePoll.concludeIteration {poll : Poll First}
    {poll' : Poll Second} (same : SamePoll view related poll poll') :
    Mirrored view related (concludeIteration first poll)
      (concludeIteration second poll') := by
  unfold Core.concludeIteration
  rw [← same.ok]
  split
  · have controlled := same.world.applyControlLogic mirrors same.targets
    have published := same.published
      (applyControlLogic first poll.status
        poll.world).loop.desiredWorkingMode poll.status.deviceOnline
    apply controlled.emit_both
    rw [← controlled.loop]
    refine published.trans ?_
    rw [same.online]
  · apply same.world.emit_both
    rw [← same.world.loop]
    exact same.published poll.world.loop.desiredWorkingMode false

theorem Mirrored.iteration (mirrored : Mirrored view related world other)
    (batch : List Command) :
    Mirrored view related (iteration first batch world)
      (iteration second batch other) :=
  ((mirrored.processCommands mirrors batch).readStatus
    mirrors).concludeIteration mirrors

theorem Mirrored.publishInitialStatus
    (mirrored : Mirrored view related world other) :
    Mirrored view related (publishInitialStatus first world)
      (publishInitialStatus second other) := by
  have same := mirrored.readStatus mirrors
  unfold Core.publishInitialStatus
  dsimp only
  rw [← same.ok]
  split
  · apply same.world.emit_both
    rw [← same.world.loop]
    exact same.published
      (Core.readStatus first {} world).world.loop.desiredWorkingMode true
  · exact same.world

theorem Mirrored.pass (mirrored : Mirrored view related world other)
    (batch : List Command) :
    Mirrored view related (pass first batch world)
      (pass second batch other) := by
  rcases mirrors.connected _ _ mirrored.device with ⟨here, there⟩
  unfold Core.pass
  rw [if_pos here, if_pos there]
  exact mirrored.iteration mirrors batch

theorem Mirrored.runLoop (mirrored : Mirrored view related world other)
    (batches : List (List Command)) :
    Mirrored view related (runLoop first batches world)
      (runLoop second batches other) := by
  induction batches generalizing world other with
  | nil => exact mirrored
  | cons batch batches ih => exact ih (mirrored.pass mirrors batch)

/-- From the start of the thread on, the loop decides alike. -/
theorem Mirrors.threadRun {device : First} {device' : Second}
    (same : related device device') (loop : ControlLoop)
    (batches : List (List Command)) :
    Mirrored view related (threadRun first loop device batches)
      (threadRun second loop device' batches) :=
  Mirrored.runLoop mirrors
    (Mirrored.publishInitialStatus mirrors ⟨same, rfl, rfl⟩) batches

end

/-! ## Two views -/

/-- A snapshot without what comes from the sensors. -/
def StatusSnapshot.control (status : StatusSnapshot) : StatusSnapshot :=
  { dhwTarget := status.dhwTarget
    heatingTarget := status.heatingTarget
    dhwPriority := status.dhwPriority
    deviceOnline := status.deviceOnline
    workingMode := status.workingMode }

/-- The view that leaves out what comes from the sensors. -/
def decisionView : View
  | .read _ _ => none
  | .publish status => some (.publish status.control)
  | event => some event

theorem decisionView_coherent : decisionView.Coherent := by
  intro outcome outcome' same loop mode online
  rcases same.pollFrame loop with ⟨dhw, heating⟩
  have priority : (pollFrame outcome {} loop).status.dhwPriority =
      (pollFrame outcome' {} loop).status.dhwPriority := by
    rw [pollFrame_dhwPriority, pollFrame_dhwPriority,
      same.control regDhwPriority (by decide)]
  simp only [decisionView, StatusSnapshot.control, dhw, heating, priority]

/-- The view that leaves out nothing. -/
def fullView : View :=
  some

theorem fullView_seen (history : List Event) :
    fullView.seen history = history :=
  List.filterMap_some

theorem fullView_coherent : fullView.Coherent := by
  intro outcome outcome' same loop mode online
  have equal : outcome = outcome' := by
    ext1 address
    have read := Option.some.inj (same.reads address)
    exact (Event.read.inj read).2
  rw [equal]

end Windmi.Core
