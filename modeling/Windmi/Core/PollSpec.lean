import Windmi.Core.ReadStatus
import Mathlib.Data.List.ReduceOption

/-!
# What a poll does

No read of `readStatus` depends on the outcome of another one, and no register
is read twice.  A poll of any client is therefore determined by one outcome for
each address (`readStatus_spec`), and what the control loop keeps of it is a
short expression in the outcomes of seven critical registers and the two
targets.
-/

namespace Windmi.Core

open Windmi.Modbus

/-- What each read of a poll gives; `none` is a thrown exception. -/
abbrev Outcomes := Address → Option Word

theorem apply_elim {α β : Type} (field : α → β) (outcome : Option Word)
    (failure : α) (success : Word → α) :
    field (outcome.elim failure success) =
      outcome.elim (field failure) (fun raw => field (success raw)) := by
  cases outcome <;> rfl

@[simp]
theorem elim_const {α : Type} (outcome : Option Word) (value : α) :
    outcome.elim value (fun _ => value) = value := by
  cases outcome <;> rfl

/-! ## Blocks on given outcomes -/

def Block.apply (outcome : Outcomes) (block : Block) (frame : Frame) :
    Frame :=
  match block with
  | .poll address success failure =>
      (outcome address).elim (failure frame) (fun raw => success raw frame)
  | .compute update => update frame

def applyBlocks (outcome : Outcomes) (blocks : List Block) (frame : Frame) :
    Frame :=
  blocks.foldl (fun frame block => block.apply outcome frame) frame

/-- The register which a block reads, if any. -/
def Block.address : Block → Option Address
  | .poll address _ _ => some address
  | .compute _ => none

/-- The registers of a poll in the order of the reads. -/
def polledRegisters : List Address :=
  readStatusBlocks.filterMap Block.address

theorem polledRegisters_eq :
    polledRegisters =
      [regOutdoorTemp, regIndoorTemp, regLeavingWaterTemp,
        regEnteringWaterTemp, regDhwTankTemp, regRunningMode,
        regRunningStatus, regDhwTarget, regHeatingTarget, regDhwPriority,
        regOccupancyMode, regAcCurrent, regDcCurrent, regAcVoltage,
        regDcVoltage, regUnitCapacity, regCompressorFreq, regWaterFlow,
        regActualCapacityOutput, regDhwValveStatus, regDhwModeStatus,
        regOduInputStatus, regCompressorRuntime, regPumpRuntime] :=
  rfl

theorem polledRegisters_nodup : polledRegisters.Nodup := by
  decide

/-- The read events of a list of blocks, newest first. -/
def readEvents (outcome : Outcomes) (addresses : List Address) :
    List Event :=
  (addresses.map fun address =>
    Event.read address (outcome address)).reverse

theorem Block.apply_congr
    {first second : Outcomes} {block : Block}
    (agree : ∀ address ∈ block.address, first address = second address)
    (frame : Frame) :
    block.apply first frame = block.apply second frame := by
  cases block with
  | poll address success failure =>
      have equal : first address = second address :=
        agree address rfl
      simp [Block.apply, equal]
  | compute update => rfl

theorem applyBlocks_congr
    {first second : Outcomes} {blocks : List Block}
    (agree : ∀ address ∈ blocks.filterMap Block.address,
      first address = second address)
    (frame : Frame) :
    applyBlocks first blocks frame = applyBlocks second blocks frame := by
  induction blocks generalizing frame with
  | nil => rfl
  | cons block blocks ih =>
      have headEqual : block.apply first frame = block.apply second frame :=
        Block.apply_congr
          (fun address member =>
            agree address
              (List.mem_filterMap.mpr ⟨block, by simp, member⟩)) frame
      have tailEqual := ih
        (fun address member => agree address (by
          rcases List.mem_filterMap.mp member with
            ⟨inner, innerMember, innerAddress⟩
          exact List.mem_filterMap.mpr
            ⟨inner, List.mem_cons_of_mem block innerMember,
              innerAddress⟩))
        (block.apply second frame)
      calc
        applyBlocks first (block :: blocks) frame
            = applyBlocks first blocks (block.apply first frame) := rfl
        _ = applyBlocks second blocks (block.apply second frame) := by
              rw [headEqual, tailEqual]

variable {Device : Type}

/-- What successive reads of some registers give, and the device after. -/
def readAll (client : IModbusClient Device) :
    List Address → Device → Outcomes × Device
  | [], device => (fun _ => none, device)
  | address :: addresses, device =>
      let answer := client.readRegister address device
      let rest := readAll client addresses answer.2
      (Function.update rest.1 address answer.1, rest.2)

theorem Block.run_poll (client : IModbusClient Device) (address : Address)
    (success : Word → Frame → Frame) (failure : Frame → Frame)
    (frame : Frame) (bus : Bus Device) :
    let answer := bus.readRegister client address
    (Block.poll address success failure).run client (frame, bus) =
      (answer.1.elim (failure frame) (fun raw => success raw frame),
        answer.2) := by
  simp only [Block.run]
  cases (bus.readRegister client address).1 with
  | none => rfl
  | some raw => rfl

/--
Running blocks that read pairwise different registers amounts to reading the
registers first and applying the blocks to the outcomes.
-/
theorem runBlocks_spec (client : IModbusClient Device)
    {blocks : List Block}
    (distinct : (blocks.filterMap Block.address).Nodup)
    (frame : Frame) (bus : Bus Device) :
    let addresses := blocks.filterMap Block.address
    let result := readAll client addresses bus.device
    blocks.foldl (fun state block => block.run client state) (frame, bus) =
      (applyBlocks result.1 blocks frame,
        { device := result.2
          history := readEvents result.1 addresses ++ bus.history }) := by
  induction blocks generalizing frame bus with
  | nil => rfl
  | cons block blocks ih =>
      cases block with
      | compute update =>
          have tailDistinct : (blocks.filterMap Block.address).Nodup :=
            distinct
          exact ih tailDistinct (update frame) bus
      | poll address success failure =>
          have fresh :
              address ∉ blocks.filterMap Block.address ∧
                (blocks.filterMap Block.address).Nodup := by
            simpa [Block.address] using distinct
          let answer := bus.readRegister client address
          have headRun :
              (Block.poll address success failure).run client (frame, bus) =
                (answer.1.elim (failure frame)
                  (fun raw => success raw frame), answer.2) :=
            Block.run_poll client address success failure frame bus
          have tail := ih fresh.2
            (answer.1.elim (failure frame) fun raw => success raw frame)
            answer.2
          let outcome :=
            (readAll client (blocks.filterMap Block.address)
              answer.2.device).1
          have agree : ∀ other ∈ blocks.filterMap Block.address,
              outcome other =
                Function.update outcome address answer.1 other := by
            intro other member
            have different : other ≠ address := by
              rintro rfl
              exact fresh.1 member
            simp [different]
          have sameEvents :
              readEvents (Function.update outcome address answer.1)
                  (blocks.filterMap Block.address) =
                readEvents outcome (blocks.filterMap Block.address) := by
            unfold readEvents
            congr 1
            refine List.map_congr_left fun other member => ?_
            rw [agree other member]
          have headAddress :
              (Block.poll address success failure :: blocks).filterMap
                  Block.address =
                address :: blocks.filterMap Block.address := by
            simp [Block.address]
          rw [List.foldl_cons, headRun, tail, headAddress]
          refine Prod.ext ?_ ?_
          · change applyBlocks outcome blocks _ =
              applyBlocks _ blocks (Block.apply _ _ frame)
            rw [applyBlocks_congr agree]
            simp [Block.apply, readAll, outcome, answer, Bus.readRegister]
          · change Bus.mk _ _ = Bus.mk _ _
            congr 1
            change readEvents outcome _ ++ answer.2.history =
              readEvents (Function.update outcome address answer.1)
                (address :: blocks.filterMap Block.address) ++ bus.history
            simp only [readEvents, List.map_cons, List.reverse_cons,
              Function.update_self]
            rw [← readEvents, ← readEvents, sameEvents]
            simp [Bus.readRegister, answer]

/--
A device which reads do not change answers each of them as if it were the only
one.
-/
theorem runBlocks_steady {client : IModbusClient Device} {device : Device}
    {outcome : Outcomes}
    (steady : ∀ address,
      client.readRegister address device = (outcome address, device))
    (blocks : List Block) (frame : Frame) (history : List Event) :
    blocks.foldl (fun state block => block.run client state)
        (frame, { device := device, history := history }) =
      (applyBlocks outcome blocks frame,
        { device := device
          history :=
            readEvents outcome (blocks.filterMap Block.address) ++
              history }) := by
  induction blocks generalizing frame history with
  | nil => rfl
  | cons block blocks ih =>
      cases block with
      | compute update =>
          exact ih (update frame) history
      | poll address success failure =>
          rw [List.foldl_cons, Block.run_poll]
          simp only [Bus.readRegister, steady]
          refine (ih _ _).trans ?_
          simp [applyBlocks, Block.apply, Block.address, readEvents]

/-! ## What a poll leaves behind -/

/-- The registers whose failing read makes `readStatus` return false. -/
def criticalRegisters : List Address :=
  [regOutdoorTemp, regLeavingWaterTemp, regDhwTankTemp, regRunningMode,
    regRunningStatus, regDhwTarget, regDhwPriority]

theorem criticalRegisters_polled :
    ∀ address ∈ criticalRegisters, address ∈ polledRegisters := by
  have polled : criticalRegisters ⊆ polledRegisters := by
    rw [criticalRegisters, polledRegisters_eq]
    decide
  exact fun _ critical => polled critical

def pollOk (outcome : Outcomes) : Bool :=
  criticalRegisters.all fun address => (outcome address).isSome

/-- The control state after a poll. -/
def observe (outcome : Outcomes) (loop : ControlLoop) : ControlLoop :=
  let loop := (outcome regRunningMode).elim loop
    fun raw => observeRunningMode raw loop
  let loop := (outcome regDhwTarget).elim loop
    fun raw => observeDhwTarget raw loop
  let loop := (outcome regHeatingTarget).elim loop
    fun raw => observeHeatingTarget raw loop
  loop.completePoll (pollOk outcome)

/-- What a poll makes of the shadow mode. -/
def observedMode (outcome : Option Word) (current : Int) : Int :=
  outcome.elim current fun raw =>
    if raw.toInt = 0 ∨ raw.toInt = 1 ∨ raw.toInt = 2 then
      raw.toInt
    else
      current

/-- What a poll makes of a saved target. -/
def observedTarget (initialized : Bool) (outcome : Option Word)
    (saved : ℚ) : ℚ :=
  if initialized then saved else outcome.elim saved rawToTemp

/-- A poll changes five members, each on its own. -/
theorem observe_eq (outcome : Outcomes) (loop : ControlLoop) :
    observe outcome loop =
      { loop with
        currentMode :=
          observedMode (outcome regRunningMode) loop.currentMode
        lastHeatingTarget :=
          (outcome regHeatingTarget).elim loop.lastHeatingTarget rawToTemp
        savedDhwTarget :=
          observedTarget loop.savedTargetsInitialized
            (outcome regDhwTarget) loop.savedDhwTarget
        savedHeatingTarget :=
          observedTarget loop.savedTargetsInitialized
            (outcome regHeatingTarget) loop.savedHeatingTarget
        savedTargetsInitialized :=
          loop.savedTargetsInitialized || pollOk outcome } := by
  have mode : ∀ raw, observeRunningMode raw loop =
      { loop with
        currentMode := observedMode (some raw) loop.currentMode } := by
    intro raw
    simp only [observeRunningMode, observedMode, Option.elim_some]
    split_ifs <;> rfl
  unfold observe
  generalize pollOk outcome = ok
  cases loop with
  | mk _ _ _ _ _ _ initialized =>
      cases initialized <;> cases outcome regRunningMode <;>
        cases outcome regDhwTarget <;>
          cases outcome regHeatingTarget <;>
            simp only [Option.elim_none, Option.elim_some, mode] <;> rfl

/-- The local state at the end of `readStatus`. -/
def pollFrame (outcome : Outcomes) (status : StatusSnapshot)
    (loop : ControlLoop) : Frame :=
  applyBlocks outcome readStatusBlocks { loop := loop, status := status }

theorem Block.poll_apply_field {α : Type} (field : Frame → α)
    (outcome : Outcomes) (address : Address)
    (success : Word → Frame → Frame) (failure : Frame → Frame)
    (frame : Frame) :
    field ((Block.poll address success failure).apply outcome frame) =
      (outcome address).elim (field (failure frame))
        (fun raw => field (success raw frame)) :=
  apply_elim field _ _ _

/-- A block that leaves one part of the local state alone. -/
def Block.Keeps {α : Type} (field : Frame → α) (block : Block) : Prop :=
  ∀ outcome frame, field (block.apply outcome frame) = field frame

theorem applyBlocks_keeps {α : Type} {field : Frame → α}
    {blocks : List Block} (keeps : ∀ block ∈ blocks, block.Keeps field)
    (outcome : Outcomes) (frame : Frame) :
    field (applyBlocks outcome blocks frame) = field frame := by
  induction blocks generalizing frame with
  | nil => rfl
  | cons block blocks ih =>
      have tail := ih
        (fun inner member => keeps inner (List.mem_cons_of_mem _ member))
        (block.apply outcome frame)
      exact tail.trans (keeps block (List.mem_cons_self ..) outcome frame)

theorem Block.keeps_poll {α : Type} {field : Frame → α}
    {address : Address} {success : Word → Frame → Frame}
    {failure : Frame → Frame}
    (onSuccess : ∀ raw frame, field (success raw frame) = field frame)
    (onFailure : ∀ frame, field (failure frame) = field frame) :
    (Block.poll address success failure).Keeps field := by
  intro outcome frame
  rw [Block.poll_apply_field field]
  simp [onSuccess, onFailure]

theorem calculatePower_keeps {α : Type} {field : Frame → α}
    (ignores : ∀ frame va w valid,
      field
          { frame with
            status :=
              { frame.status with
                acPowerVa := va
                acPowerW := w
                powerValid := valid } } =
        field frame) :
    calculatePower.Keeps field := by
  intro outcome frame
  simp only [calculatePower, Block.apply]
  split
  · exact ignores frame _ _ _
  · exact ignores frame _ _ _

theorem calculateCop_keeps {α : Type} {field : Frame → α}
    (ignores : ∀ frame heat cop valid,
      field
          { frame with
            status :=
              { frame.status with
                heatOutputW := heat
                cop := cop
                copValid := valid } } =
        field frame) :
    calculateCop.Keeps field := by
  intro outcome frame
  simp only [calculateCop, Block.apply]
  split_ifs
  · exact ignores frame _ _ _
  · exact ignores frame _ _ _
  · exact ignores frame _ _ _

/-- The part of the local state which the control logic will look at. -/
def controlView (frame : Frame) : ControlLoop × ℚ × ℚ :=
  (frame.loop, frame.status.dhwTarget, frame.status.heatingTarget)

theorem temperatureBlocks_keep_controlView :
    ∀ block ∈ temperatureBlocks, block.Keeps controlView := by
  simp only [temperatureBlocks, List.forall_mem_cons]
  and_intros
  all_goals first
    | exact Block.keeps_poll (fun _ _ => rfl) (fun _ => rfl)
    | simp

theorem reportBlocks_keep_controlView :
    ∀ block ∈ reportBlocks, block.Keeps controlView := by
  simp only [reportBlocks, List.forall_mem_cons]
  and_intros
  all_goals first
    | exact Block.keeps_poll (fun _ _ => rfl) (fun _ => rfl)
    | exact calculatePower_keeps fun _ _ _ _ => rfl
    | exact calculateCop_keeps fun _ _ _ _ => rfl
    | simp

theorem readRunningStatus_keeps_controlView :
    readRunningStatus.Keeps controlView :=
  Block.keeps_poll (fun _ _ => rfl) (fun _ => rfl)

theorem applyBlocks_append (outcome : Outcomes)
    (first second : List Block) (frame : Frame) :
    applyBlocks outcome (first ++ second) frame =
      applyBlocks outcome second (applyBlocks outcome first frame) :=
  List.foldl_append ..

/-- A block that clears the `ok` flag unless a needed register is read. -/
def Block.Needs (block : Block) (needed : Option Address) : Prop :=
  ∀ outcome frame,
    (block.apply outcome frame).ok =
      (frame.ok && needed.all fun address => (outcome address).isSome)

theorem Block.needs_of_keeps {block : Block}
    (keeps : block.Keeps Frame.ok) : block.Needs none := by
  intro outcome frame
  rw [keeps]
  simp

theorem Block.poll_needs {address : Address}
    {success : Word → Frame → Frame} {failure : Frame → Frame}
    (onSuccess : ∀ raw frame, (success raw frame).ok = frame.ok)
    (onFailure : ∀ frame, (failure frame).ok = false) :
    (Block.poll address success failure).Needs (some address) := by
  intro outcome frame
  rw [Block.poll_apply_field Frame.ok]
  cases equal : outcome address <;> simp [onSuccess, onFailure, equal]

theorem Block.status_needs {address : Address}
    {success : Word → StatusSnapshot → StatusSnapshot}
    {failure : StatusSnapshot → StatusSnapshot} :
    (Block.status address true success failure).Needs (some address) :=
  Block.poll_needs (fun _ _ => rfl) (fun frame => Bool.and_false frame.ok)

theorem Block.status_needs_none {address : Address}
    {success : Word → StatusSnapshot → StatusSnapshot}
    {failure : StatusSnapshot → StatusSnapshot} :
    (Block.status address false success failure).Needs none :=
  Block.needs_of_keeps
    (Block.keeps_poll (fun _ _ => rfl) (fun frame => Bool.and_true frame.ok))

theorem applyBlocks_ok {blocks : List Block}
    {needed : List (Option Address)}
    (needs : List.Forall₂ Block.Needs blocks needed)
    (outcome : Outcomes) (frame : Frame) :
    (applyBlocks outcome blocks frame).ok =
      (frame.ok &&
        needed.reduceOption.all fun address =>
          (outcome address).isSome) := by
  induction needs generalizing frame with
  | nil => simp [applyBlocks]
  | @cons block need blocks needed head tail ih =>
      have tailOk := ih (block.apply outcome frame)
      refine tailOk.trans ?_
      rw [head, Bool.and_assoc]
      cases need with
      | none => simp
      | some address => simp

theorem concludePoll_keeps_ok : concludePoll.Keeps Frame.ok := by
  intro outcome frame
  rfl

theorem readStatusBlocks_need :
    List.Forall₂ Block.Needs readStatusBlocks
      [some regOutdoorTemp, none, some regLeavingWaterTemp, none,
        some regDhwTankTemp, some regRunningMode, some regRunningStatus,
        some regDhwTarget, none, some regDhwPriority, none, none, none,
        none, none, none, none, none, none, none, none, none, none, none,
        none, none, none] := by
  simp only [readStatusBlocks, temperatureBlocks, reportBlocks,
    List.cons_append, List.nil_append, List.forall₂_cons,
    List.forall₂_nil_right_iff]
  and_intros
  all_goals first
    | exact Block.status_needs
    | exact Block.status_needs_none
    | exact Block.poll_needs (fun _ _ => rfl) (fun _ => rfl)
    | exact Block.needs_of_keeps
        (Block.keeps_poll (fun _ _ => rfl) (fun _ => rfl))
    | exact Block.needs_of_keeps (calculatePower_keeps fun _ _ _ _ => rfl)
    | exact Block.needs_of_keeps (calculateCop_keeps fun _ _ _ _ => rfl)
    | exact Block.needs_of_keeps concludePoll_keeps_ok
    | trivial

/-- A poll succeeds exactly if all critical registers were read. -/
theorem pollFrame_ok (outcome : Outcomes) (status : StatusSnapshot)
    (loop : ControlLoop) :
    (pollFrame outcome status loop).ok = pollOk outcome := by
  rw [pollFrame, applyBlocks_ok readStatusBlocks_need, Bool.true_and]
  rfl

theorem pollFrame_deviceOnline (outcome : Outcomes)
    (status : StatusSnapshot) (loop : ControlLoop) :
    (pollFrame outcome status loop).status.deviceOnline =
      pollOk outcome :=
  pollFrame_ok outcome status loop

theorem readRunningMode_controlView (outcome : Outcomes)
    (frame : Frame) :
    controlView (readRunningMode.apply outcome frame) =
      ((outcome regRunningMode).elim frame.loop
          (fun raw => observeRunningMode raw frame.loop),
        frame.status.dhwTarget, frame.status.heatingTarget) := by
  rw [readRunningMode, Block.poll_apply_field controlView]
  cases outcome regRunningMode <;> rfl

theorem readDhwTarget_controlView (outcome : Outcomes) (frame : Frame) :
    controlView (readDhwTarget.apply outcome frame) =
      ((outcome regDhwTarget).elim frame.loop
          (fun raw => observeDhwTarget raw frame.loop),
        (outcome regDhwTarget).elim frame.status.dhwTarget rawToTemp,
        frame.status.heatingTarget) := by
  rw [readDhwTarget, Block.poll_apply_field controlView]
  cases outcome regDhwTarget <;> rfl

theorem readHeatingTarget_controlView (outcome : Outcomes)
    (frame : Frame) :
    controlView (readHeatingTarget.apply outcome frame) =
      ((outcome regHeatingTarget).elim frame.loop
          (fun raw => observeHeatingTarget raw frame.loop),
        frame.status.dhwTarget,
        (outcome regHeatingTarget).elim frame.loop.lastHeatingTarget
          rawToTemp) := by
  rw [readHeatingTarget, Block.poll_apply_field controlView]
  cases outcome regHeatingTarget <;> rfl

@[simp]
theorem observeRunningMode_lastHeatingTarget (raw : Word)
    (loop : ControlLoop) :
    (observeRunningMode raw loop).lastHeatingTarget =
      loop.lastHeatingTarget := by
  unfold observeRunningMode
  split <;> rfl

@[simp]
theorem observeDhwTarget_lastHeatingTarget (raw : Word)
    (loop : ControlLoop) :
    (observeDhwTarget raw loop).lastHeatingTarget =
      loop.lastHeatingTarget := by
  unfold observeDhwTarget
  split <;> rfl

/-- The control view after a poll, in terms of the outcomes. -/
theorem pollFrame_controlView (outcome : Outcomes)
    (status : StatusSnapshot) (loop : ControlLoop) :
    controlView (pollFrame outcome status loop) =
      (observe outcome loop,
        (outcome regDhwTarget).elim status.dhwTarget rawToTemp,
        (outcome regHeatingTarget).elim loop.lastHeatingTarget
          rawToTemp) := by
  let start : Frame := { loop := loop, status := status }
  let first := applyBlocks outcome temperatureBlocks start
  let second := readRunningMode.apply outcome first
  let third := readRunningStatus.apply outcome second
  let fourth := readDhwTarget.apply outcome third
  let fifth := readHeatingTarget.apply outcome fourth
  let last := applyBlocks outcome reportBlocks fifth
  have frameEqual :
      pollFrame outcome status loop = concludePoll.apply outcome last := by
    simp only [pollFrame, readStatusBlocks, applyBlocks_append]
    rfl
  have okEqual : last.ok = pollOk outcome := by
    have concluded := pollFrame_ok outcome status loop
    rw [frameEqual] at concluded
    exact concluded
  have firstView : controlView first = controlView start :=
    applyBlocks_keeps temperatureBlocks_keep_controlView outcome start
  have thirdView : controlView third = controlView second :=
    readRunningStatus_keeps_controlView outcome second
  have lastView : controlView last = controlView fifth :=
    applyBlocks_keeps reportBlocks_keep_controlView outcome fifth
  have secondView := readRunningMode_controlView outcome first
  have fourthView := readDhwTarget_controlView outcome third
  have fifthView := readHeatingTarget_controlView outcome fourth
  simp only [controlView, Prod.mk.injEq] at firstView secondView thirdView
  simp only [controlView, Prod.mk.injEq] at fourthView fifthView lastView
  rcases firstView with ⟨firstLoop, firstDhw, firstHeating⟩
  rcases secondView with ⟨secondLoop, secondDhw, secondHeating⟩
  rcases thirdView with ⟨thirdLoop, thirdDhw, thirdHeating⟩
  rcases fourthView with ⟨fourthLoop, fourthDhw, fourthHeating⟩
  rcases fifthView with ⟨fifthLoop, fifthDhw, fifthHeating⟩
  rcases lastView with ⟨lastLoop, lastDhw, lastHeating⟩
  have dhwEqual : last.status.dhwTarget =
      (outcome regDhwTarget).elim status.dhwTarget rawToTemp := by
    rw [lastDhw, fifthDhw, fourthDhw, thirdDhw, secondDhw, firstDhw]
  have heatingEqual : last.status.heatingTarget =
      (outcome regHeatingTarget).elim loop.lastHeatingTarget
        rawToTemp := by
    rw [lastHeating, fifthHeating, fourthLoop, thirdLoop, secondLoop,
      firstLoop, apply_elim ControlLoop.lastHeatingTarget]
    simp only [observeDhwTarget_lastHeatingTarget, elim_const]
    rw [apply_elim ControlLoop.lastHeatingTarget]
    simp only [observeRunningMode_lastHeatingTarget, elim_const, start]
  have loopEqual :
      last.loop.completePoll last.ok = observe outcome loop := by
    rw [okEqual, lastLoop, fifthLoop, fourthLoop, thirdLoop, secondLoop,
      firstLoop]
    rfl
  rw [frameEqual, ← dhwEqual, ← heatingEqual, ← loopEqual]
  rfl

/-- A poll with given outcomes, as a whole. -/
def pollWith (outcome : Outcomes) (device : Device)
    (status : StatusSnapshot) (world : World Device) : Poll Device :=
  { ok := pollOk outcome
    status := (pollFrame outcome status world.loop).status
    world :=
      { loop := observe outcome world.loop
        bus :=
          { device := device
            history :=
              readEvents outcome polledRegisters ++ world.bus.history } } }

theorem pollFrame_loop (outcome : Outcomes) (status : StatusSnapshot)
    (loop : ControlLoop) :
    (pollFrame outcome status loop).loop = observe outcome loop :=
  congrArg Prod.fst (pollFrame_controlView outcome status loop)

theorem pollFrame_dhwTarget (outcome : Outcomes)
    (status : StatusSnapshot) (loop : ControlLoop) :
    (pollFrame outcome status loop).status.dhwTarget =
      (outcome regDhwTarget).elim status.dhwTarget rawToTemp :=
  congrArg (fun view => view.2.1)
    (pollFrame_controlView outcome status loop)

theorem pollFrame_heatingTarget (outcome : Outcomes)
    (status : StatusSnapshot) (loop : ControlLoop) :
    (pollFrame outcome status loop).status.heatingTarget =
      (outcome regHeatingTarget).elim loop.lastHeatingTarget rawToTemp :=
  congrArg (fun view => view.2.2)
    (pollFrame_controlView outcome status loop)

/-- Only one block touches the priority in the snapshot. -/
theorem pollFrame_dhwPriority (outcome : Outcomes)
    (status : StatusSnapshot) (loop : ControlLoop) :
    (pollFrame outcome status loop).status.dhwPriority =
      (outcome regDhwPriority).elim status.dhwPriority
        (fun raw => decide (raw.toInt ≠ 0)) := by
  let field := fun frame : Frame => frame.status.dhwPriority
  let before := temperatureBlocks ++
    [readRunningMode, readRunningStatus, readDhwTarget, readHeatingTarget]
  let after := reportBlocks.tail ++ [concludePoll]
  have whole : readStatusBlocks = before ++ readDhwPriority :: after := rfl
  have keptBefore : ∀ block ∈ before, block.Keeps field := by
    simp only [before, temperatureBlocks, List.cons_append, List.nil_append,
      List.forall_mem_cons]
    and_intros
    all_goals first
      | exact Block.keeps_poll (fun _ _ => rfl) (fun _ => rfl)
      | simp
  have keptAfter : ∀ block ∈ after, block.Keeps field := by
    simp only [after, reportBlocks, List.tail_cons, List.cons_append,
      List.nil_append, List.forall_mem_cons]
    and_intros
    all_goals first
      | exact Block.keeps_poll (fun _ _ => rfl) (fun _ => rfl)
      | exact calculatePower_keeps fun _ _ _ _ => rfl
      | exact calculateCop_keeps fun _ _ _ _ => rfl
      | exact fun _ _ => rfl
      | simp
  have first := applyBlocks_keeps keptBefore outcome
    { loop := loop, status := status }
  let reached := applyBlocks outcome before { loop := loop, status := status }
  have second : field (readDhwPriority.apply outcome reached) =
      (outcome regDhwPriority).elim (field reached)
        (fun raw => decide (raw.toInt ≠ 0)) :=
    Block.poll_apply_field field ..
  have third := applyBlocks_keeps keptAfter outcome
    (readDhwPriority.apply outcome reached)
  rw [pollFrame, whole, applyBlocks_append]
  exact third.trans (second.trans (by rw [first]))

/-- What the reads of a poll give, and the device after them. -/
def pollReads (client : IModbusClient Device) (device : Device) :
    Outcomes × Device :=
  readAll client polledRegisters device

/-- A poll is determined by what its reads give. -/
theorem readStatus_spec (client : IModbusClient Device)
    (status : StatusSnapshot) (world : World Device) :
    let reads := pollReads client world.bus.device
    readStatus client status world =
      pollWith reads.1 reads.2 status world := by
  intro reads
  have equal := runBlocks_spec client polledRegisters_nodup
    { loop := world.loop, status := status } world.bus
  rw [readStatus, equal, pollWith, ← pollFrame_ok reads.1 status world.loop,
    ← pollFrame_loop reads.1 status world.loop]
  rfl

/-- Polling a device which reads do not change. -/
theorem readStatus_steady {client : IModbusClient Device}
    {outcome : Outcomes} {world : World Device}
    (steady : ∀ address,
      client.readRegister address world.bus.device =
        (outcome address, world.bus.device))
    (status : StatusSnapshot) :
    readStatus client status world =
      pollWith outcome world.bus.device status world := by
  have equal := runBlocks_steady steady readStatusBlocks
    { loop := world.loop, status := status } world.bus.history
  rw [readStatus, equal, pollWith, ← pollFrame_ok _ status world.loop,
    ← pollFrame_loop _ status world.loop]
  rfl

/-- Polling a device that never fails finds the contents. -/
theorem readStatus_registerFile (status : StatusSnapshot)
    (world : World RegisterFile) :
    readStatus registerFile status world =
      pollWith (fun address => some (world.bus.device address))
        world.bus.device status world :=
  readStatus_steady (fun _ => rfl) status

section

variable (client : IModbusClient Device) {world : World Device}

theorem readStatus_loop (status : StatusSnapshot) :
    (readStatus client status world).world.loop =
      observe (pollReads client world.bus.device).1 world.loop := by
  rw [readStatus_spec]
  rfl

theorem readStatus_ok (status : StatusSnapshot) :
    (readStatus client status world).ok =
      pollOk (pollReads client world.bus.device).1 := by
  rw [readStatus_spec]
  rfl

theorem readStatus_history (status : StatusSnapshot) :
    (readStatus client status world).world.bus.history =
      readEvents (pollReads client world.bus.device).1 polledRegisters ++
        world.bus.history := by
  rw [readStatus_spec]
  rfl

end

/-! ## What a poll leaves alone -/

@[simp]
theorem observe_desiredWorkingMode (outcome : Outcomes)
    (loop : ControlLoop) :
    (observe outcome loop).desiredWorkingMode =
      loop.desiredWorkingMode := by
  rw [observe_eq]

@[simp]
theorem observe_currentPriority (outcome : Outcomes)
    (loop : ControlLoop) :
    (observe outcome loop).currentPriority = loop.currentPriority := by
  rw [observe_eq]

theorem readStatus_desired (client : IModbusClient Device)
    (status : StatusSnapshot) (world : World Device) :
    (readStatus client status world).world.loop.desiredWorkingMode =
      world.loop.desiredWorkingMode := by
  rw [readStatus_loop, observe_desiredWorkingMode]

theorem readEvents_cons (outcome : Outcomes) (address : Address)
    (addresses : List Address) (history : List Event) :
    readEvents outcome (address :: addresses) ++ history =
      readEvents outcome addresses ++
        .read address (outcome address) :: history := by
  simp [readEvents]

theorem mem_readEvents {outcome : Outcomes} {addresses : List Address}
    {event : Event} (member : event ∈ readEvents outcome addresses) :
    ∃ address ∈ addresses, event = .read address (outcome address) := by
  simp only [readEvents, List.mem_reverse, List.mem_map] at member
  rcases member with ⟨address, inside, equal⟩
  exact ⟨address, inside, equal.symm⟩

end Windmi.Core
