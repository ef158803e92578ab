import Windmi.Utils.SettingsFile
import Windmi.Web.Legality

/-!
# Settings over a restart

The settings file at the end of a run of the controller, and the settings with
which the next one starts.  Commands, polls and the control logic only ever
put targets in force that the file can hold.
-/

namespace Windmi.Web

open Windmi.Core
open Windmi.Library
open Windmi.Modbus
open Windmi.Utils

variable {Device : Type}

/-! ## Commands -/

/-- The command carries a value that the settings file can hold. -/
structure Saveable (cmd : Command) : Prop where
  dhw : cmd.type = .setDhwTemp → Printable cmd.floatVal
  heating : cmd.type = .setHeatingTemp → Printable cmd.floatVal
  least : cmd.type = .setRunningMode → -2147483648 ≤ cmd.intVal
  most : cmd.type = .setRunningMode → cmd.intVal ≤ 2147483647

theorem finite_of_abs_le {target : ℚ} (small : |target| ≤ 2 ^ (12 : ℤ)) :
    |toFloat target| < 2 ^ 128 :=
  (abs_roundTo_le 23 small).trans_lt (by norm_num)

theorem printable_of_mem {target : ℚ} (least : 16 ≤ target)
    (most : target ≤ 100) : Printable target where
  finite := by
    apply finite_of_abs_le
    rw [abs_le]
    constructor
    · norm_num
      linarith
    · norm_num
      linarith
  decimals := Or.inl (least.trans (le_abs_self target))

theorem printable_rawToTemp (raw : Word) : Printable (rawToTemp raw) where
  finite := by
    have least := BitVec.le_toInt raw
    have most := BitVec.toInt_lt (x := raw)
    have lower : (-32768 : ℚ) ≤ raw.toInt := by exact_mod_cast least
    have upper : (raw.toInt : ℚ) < 32768 := by exact_mod_cast most
    apply finite_of_abs_le
    rw [rawToTemp, abs_le]
    constructor
    · norm_num
      linarith
    · norm_num
      linarith
  decimals := Or.inr ⟨raw, rfl⟩

theorem toInt_mem (value : Int) :
    -2147483648 ≤ toInt value ∧ toInt value ≤ 2147483647 := by
  have least := BitVec.le_toInt (BitVec.ofInt 32 value)
  have most := BitVec.toInt_lt (x := BitVec.ofInt 32 value)
  rw [toInt]
  omega

/-- Every command of a request can be saved. -/
theorem saveable_of_command {json : MgJson} {request : Request}
    {cmd : Command} (asks : request.command json = some cmd) :
    Saveable cmd := by
  have inRange := setpointInRange_of_command asks
  have parsed := (Request.command_eq_some.mp asks).2
  have mode : cmd.type = .setRunningMode →
      ∃ value, cmd.intVal = toInt value := by
    intro kind
    rcases request with ⟨api, body⟩
    cases api with
    | setDhw =>
        rcases parseTemperature_ok parsed with ⟨_, -, -, -, rfl⟩
        cases kind
    | setHeating =>
        rcases parseTemperature_ok parsed with ⟨_, -, -, -, rfl⟩
        cases kind
    | setPriority =>
        rcases parsePriority_ok parsed with ⟨_, -, dhw | heating⟩
        · rw [dhw.2] at kind
          cases kind
        · rw [heating.2.2] at kind
          cases kind
    | setMode =>
        rw [(parseMode_ok parsed).2]
        exact ⟨_, rfl⟩
    | setOccupancy =>
        rw [(parseOccupancy_ok parsed).2.2] at kind
        cases kind
  constructor
  · intro kind
    rcases inRange.dhw kind with ⟨above, below⟩
    exact printable_of_mem (le_trans (by norm_num [dhwTempMin]) above)
      (below.trans (by norm_num [dhwTempMax]))
  · intro kind
    rcases inRange.heating kind with ⟨above, below⟩
    exact printable_of_mem (le_trans (by norm_num [heatingTempMin]) above)
      (below.trans (by norm_num [heatingTempMax]))
  · intro kind
    rcases mode kind with ⟨value, same⟩
    rw [same]
    exact (toInt_mem value).1
  · intro kind
    rcases mode kind with ⟨value, same⟩
    rw [same]
    exact (toInt_mem value).2

/-! ## The loop and the calls of the settings callback -/

theorem getInt_mem (config : Config) (key : String) {default : Int}
    (range : -2147483648 ≤ default ∧ default ≤ 2147483647) :
    -2147483648 ≤ config.getInt key default ∧
      config.getInt key default ≤ 2147483647 := by
  unfold Config.getInt
  split
  · exact range
  · rename_i text found
    cases parsed : stoi text with
    | none => exact range
    | some value => exact stoi_mem parsed

/-- What the loop has in force or may put in force can be saved. -/
structure LoopSaveable (loop : ControlLoop) : Prop where
  inForce : Storable loop.inForce
  savedDhw : Printable loop.savedDhwTarget
  savedHeating : Printable loop.savedHeatingTarget

/-- Also what the callback was called with. -/
structure WorldSaveable (world : World Device) : Prop where
  loop : LoopSaveable world.loop
  called : ∀ settings ∈ world.bus.history.filterMap Event.persisted,
    Storable settings

theorem priorityToString_cases (priority : PriorityMode) :
    priorityToString priority = "dhw" ∨
      priorityToString priority = "heating" := by
  cases priority with
  | dhw => exact Or.inl rfl
  | heating => exact Or.inr rfl

section

variable {world : World Device}

theorem WorldSaveable.emit (saveable : WorldSaveable world) {event : Event}
    (silent : event.persisted = none) :
    WorldSaveable (world.emit event) where
  loop := saveable.loop
  called := by
    rw [World.emit, List.filterMap_cons_none silent]
    exact saveable.called

theorem WorldSaveable.fireSettingsCallback (saveable : WorldSaveable world) :
    WorldSaveable world.fireSettingsCallback where
  loop := saveable.loop
  called := by
    intro settings member
    rcases List.mem_cons.mp member with rfl | before
    · exact saveable.loop.inForce
    · exact saveable.called settings before

theorem WorldSaveable.updateLoop (saveable : WorldSaveable world)
    {update : ControlLoop → ControlLoop}
    (kept : LoopSaveable (update world.loop)) :
    WorldSaveable (world.updateLoop update) where
  loop := kept
  called := saveable.called

theorem WorldSaveable.writeRegister (saveable : WorldSaveable world)
    (client : IModbusClient Device) (address : Address) (value : Word) :
    WorldSaveable (world.writeRegister client address value).2 where
  loop := saveable.loop
  called := saveable.called

variable (client : IModbusClient Device)

theorem WorldSaveable.setRunningMode (saveable : WorldSaveable world)
    (mode : Int) : WorldSaveable (setRunningMode client mode world).2 := by
  simp only [Core.setRunningMode]
  split_ifs
  · exact saveable
  · exact saveable.writeRegister client _ _
  · exact saveable.writeRegister client _ _

theorem WorldSaveable.setDhwTarget (saveable : WorldSaveable world)
    {temp : ℚ} (printable : Printable temp) :
    WorldSaveable (setDhwTarget client temp world).2 := by
  have inForce := saveable.loop.inForce
  rw [setDhwTarget_world]
  split_ifs
  · apply fireSettingsCallback
    exact (saveable.writeRegister client _ _).updateLoop
      ⟨⟨inForce.least, inForce.most, inForce.priority, printable,
        inForce.heating⟩, saveable.loop.savedDhw, saveable.loop.savedHeating⟩
  · exact saveable.writeRegister client _ _

theorem WorldSaveable.setHeatingTarget (saveable : WorldSaveable world)
    {temp : ℚ} (printable : Printable temp) :
    WorldSaveable (setHeatingTarget client temp world).2 := by
  have inForce := saveable.loop.inForce
  rw [setHeatingTarget_world]
  split_ifs
  · apply fireSettingsCallback
    exact (saveable.writeRegister client _ _).updateLoop
      ⟨⟨inForce.least, inForce.most, inForce.priority, inForce.dhw,
        printable⟩, saveable.loop.savedDhw, saveable.loop.savedHeating⟩
  · exact saveable.writeRegister client _ _

theorem WorldSaveable.writePriority (saveable : WorldSaveable world)
    (value : Word) (priority : PriorityMode) :
    WorldSaveable (writePriority client value priority world).2 := by
  have inForce := saveable.loop.inForce
  rw [writePriority_world]
  split_ifs
  · exact (saveable.writeRegister client _ _).updateLoop
      ⟨⟨inForce.least, inForce.most, priorityToString_cases priority,
        inForce.dhw, inForce.heating⟩, saveable.loop.savedDhw,
        saveable.loop.savedHeating⟩
  · exact saveable.writeRegister client _ _

theorem printable_dhwTargetMin : Printable dhwTargetMin :=
  printable_of_mem (by norm_num [dhwTargetMin]) (by norm_num [dhwTargetMin])

theorem printable_heatingTargetMin : Printable heatingTargetMin :=
  printable_of_mem (by norm_num [heatingTargetMin])
    (by norm_num [heatingTargetMin])

theorem WorldSaveable.overrideTargets (saveable : WorldSaveable world)
    (workingMode : Int) :
    WorldSaveable (overrideTargets client workingMode world) := by
  unfold Core.overrideTargets
  split
  · exact (saveable.setHeatingTarget client
      printable_heatingTargetMin).writePriority client _ _
  · exact (saveable.setDhwTarget client
      printable_dhwTargetMin).writePriority client _ _
  · have dhw := saveable.setDhwTarget client saveable.loop.savedDhw
    exact (dhw.setHeatingTarget client dhw.loop.savedHeating).writePriority
      client _ _
  · exact saveable

theorem WorldSaveable.processSetRunningMode (saveable : WorldSaveable world)
    {workingMode : Int} (least : -2147483648 ≤ workingMode)
    (most : workingMode ≤ 2147483647) :
    WorldSaveable (processSetRunningMode client workingMode world) := by
  have inForce := saveable.loop.inForce
  have desired : LoopSaveable
      { world.loop with desiredWorkingMode := workingMode } :=
    ⟨⟨least, most, inForce.priority, inForce.dhw, inForce.heating⟩,
      saveable.loop.savedDhw, saveable.loop.savedHeating⟩
  have commanded : WorldSaveable ((world.updateLoop fun loop =>
      { loop with desiredWorkingMode := workingMode }).fireSettingsCallback) :=
    (saveable.updateLoop desired).fireSettingsCallback
  have written := commanded.setRunningMode client
    (targetDeviceMode workingMode)
  simp only [Core.processSetRunningMode]
  split_ifs
  · apply overrideTargets
    exact written.updateLoop
      ⟨written.loop.inForce, written.loop.savedDhw,
        written.loop.savedHeating⟩
  · exact written

theorem WorldSaveable.processSetPriority (saveable : WorldSaveable world)
    (value : Int) :
    WorldSaveable (processSetPriority client value world) := by
  have written := saveable.writePriority client (BitVec.ofInt 16 value)
    (if value = 1 then .dhw else .heating)
  unfold Core.processSetPriority
  generalize (if value = 1 then PriorityMode.dhw else .heating) = priority
    at written
  dsimp only
  split
  · exact written.fireSettingsCallback
  · exact written

theorem WorldSaveable.processCommand (saveable : WorldSaveable world)
    {cmd : Command} (fits : Saveable cmd) :
    WorldSaveable (processCommand client cmd world) := by
  have begun := @emit _ _ saveable (.command cmd) rfl
  unfold Core.processCommand
  dsimp only
  split
  case h_1 kind =>
    have written := begun.setDhwTarget client (fits.dhw kind)
    exact written.updateLoop
      ⟨written.loop.inForce, fits.dhw kind, written.loop.savedHeating⟩
  case h_2 kind =>
    have written := begun.setHeatingTarget client (fits.heating kind)
    exact written.updateLoop
      ⟨written.loop.inForce, written.loop.savedDhw, fits.heating kind⟩
  case h_3 => exact begun.processSetPriority client cmd.intVal
  case h_4 => exact begun.writeRegister client _ _
  case h_5 kind =>
    exact begun.processSetRunningMode client (fits.least kind)
      (fits.most kind)

theorem WorldSaveable.processCommands (saveable : WorldSaveable world)
    {batch : List Command} (fits : ∀ cmd ∈ batch, Saveable cmd) :
    WorldSaveable (processCommands client batch world) :=
  List.foldlRecOn batch _ saveable
    fun _ previous cmd member => previous.processCommand client (fits cmd member)

/-! ## Polls and the control logic -/

theorem LoopSaveable.observe {loop : ControlLoop} (saveable : LoopSaveable loop)
    (outcome : Outcomes) : LoopSaveable (observe outcome loop) := by
  have target : ∀ initialized result saved, Printable saved →
      Printable (observedTarget initialized result saved) := by
    intro initialized result saved printable
    cases initialized with
    | true => exact printable
    | false =>
        cases result with
        | none => exact printable
        | some raw => exact printable_rawToTemp raw
  rw [observe_eq]
  exact ⟨saveable.inForce, target _ _ _ saveable.savedDhw,
    target _ _ _ saveable.savedHeating⟩

theorem WorldSaveable.readStatus (saveable : WorldSaveable world)
    (status : StatusSnapshot) :
    WorldSaveable (readStatus client status world).world where
  loop := by
    rw [readStatus_spec]
    exact saveable.loop.observe _
  called := by
    rw [(readStatus_adds client world status).filterMap_eq]
    · exact saveable.called
    · rintro event ⟨address, outcome, rfl⟩
      rfl

theorem WorldSaveable.correctDeviceMode (saveable : WorldSaveable world) :
    WorldSaveable (correctDeviceMode client world) := by
  have written := saveable.setRunningMode client
    (desiredDeviceMode world.loop.desiredWorkingMode)
  simp only [Core.correctDeviceMode]
  split_ifs
  · exact written.updateLoop
      ⟨written.loop.inForce, written.loop.savedDhw,
        written.loop.savedHeating⟩
  · exact written
  · exact saveable

theorem WorldSaveable.enforceTargets (saveable : WorldSaveable world)
    (status : StatusSnapshot) :
    WorldSaveable (enforceTargets client status world) := by
  have dhw : WorldSaveable (restoreDhwTarget client status world) := by
    unfold restoreDhwTarget
    split
    · exact saveable.setDhwTarget client saveable.loop.savedDhw
    · exact saveable
  unfold Core.enforceTargets
  split
  · split
    · exact saveable.setHeatingTarget client printable_heatingTargetMin
    · exact saveable
  · split
    · exact saveable.setDhwTarget client printable_dhwTargetMin
    · exact saveable
  · unfold restoreHeatingTarget
    split
    · exact dhw.setHeatingTarget client dhw.loop.savedHeating
    · exact dhw
  · exact saveable

theorem WorldSaveable.enforcePriority (saveable : WorldSaveable world) :
    WorldSaveable (enforcePriority client world) := by
  unfold Core.enforcePriority
  split
  · split
    · exact saveable.writePriority client _ _
    · exact saveable
  · split
    · exact saveable.writePriority client _ _
    · exact saveable
  · split
    · exact saveable.writePriority client _ _
    · exact saveable
  · exact saveable

theorem WorldSaveable.applyControlLogic (saveable : WorldSaveable world)
    (status : StatusSnapshot) :
    WorldSaveable (applyControlLogic client status world) :=
  (((saveable.emit rfl).correctDeviceMode client).enforceTargets client
    status).enforcePriority client

theorem WorldSaveable.iteration (saveable : WorldSaveable world)
    {batch : List Command} (fits : ∀ cmd ∈ batch, Saveable cmd) :
    WorldSaveable (iteration client batch world) := by
  have polled := (saveable.processCommands client fits).readStatus client {}
  unfold Core.iteration concludeIteration
  split
  · exact (polled.applyControlLogic client _).emit rfl
  · exact polled.emit rfl

theorem WorldSaveable.publishInitialStatus (saveable : WorldSaveable world) :
    WorldSaveable (publishInitialStatus client world) := by
  have polled := saveable.readStatus client {}
  unfold Core.publishInitialStatus
  dsimp only
  split
  · exact polled.emit rfl
  · exact polled

end

/-! ## Runs -/

/-- The settings store after all calls of the callback in a history; `opens`
says for each call whether the file can be opened then. -/
def storeAfter (file : Option Text) (opens : Nat → Bool)
    (history : List Event) : SettingsStore :=
  SettingsStore.afterCalls file opens (history.filterMap Event.persisted)

/-- The settings of the last call of the callback that could open the file,
or the initial ones. -/
def saved (initial : Settings) (opens : Nat → Bool) (history : List Event) :
    Settings :=
  (lastSaved opens (history.filterMap Event.persisted)).getD initial

/-- They are those of the last call if the file can be opened always. -/
theorem saved_of_opens {opens : Nat → Bool} (opened : ∀ call, opens call = true)
    (initial : Settings) (history : List Event) :
    saved initial opens history = persisted initial history := by
  rw [saved, persisted]
  cases history.filterMap Event.persisted with
  | nil => rfl
  | cons settings earlier => rw [lastSaved, opened, if_pos rfl, List.head?_cons]

/-- What the system has on its way and in force can be saved. -/
structure SystemSaveable (system : System Device) : Prop where
  carries : system.Carries Saveable
  world : WorldSaveable system.world

theorem SystemSaveable.step {system : System Device}
    (saveable : SystemSaveable system) (json : MgJson)
    (client : IModbusClient Device) (step : Step) :
    SystemSaveable (system.step json client step) where
  carries := saveable.carries.step json client
    fun _ _ _ asks => saveable_of_command asks
  world :=
    System.step_world WorldSaveable
      (fun _ _ kept => ⟨kept.loop, kept.called⟩)
      (fun kept => kept.iteration client saveable.carries.batch)
      step saveable.world

theorem SystemSaveable.run {system : System Device}
    (saveable : SystemSaveable system) (json : MgJson)
    (client : IModbusClient Device) (steps : List Step) :
    SystemSaveable (system.run json client steps) :=
  List.foldlRecOn steps _ saveable
    fun _ kept step _ => kept.step json client step

/-- The loop as `main` starts it can be saved if the targets can. -/
theorem loopSaveable_initialSettings {config : Config} {initial : Settings}
    (loaded : config.initialSettings = some initial)
    (dhw : SixDecimals initial.dhwTarget)
    (heating : SixDecimals initial.heatingTarget) :
    LoopSaveable initial.loop := by
  rcases Config.initialSettings_eq_some.mp loaded with
    ⟨dhwTarget, heatingTarget, dhwCast, heatingCast, rfl⟩
  have mode := @getInt_mem config "ui.working_mode" 3 (by decide)
  have dhwBuilt : Printable 46 := printable_of_mem (by norm_num) (by norm_num)
  have heatingBuilt : Printable 45 :=
    printable_of_mem (by norm_num) (by norm_num)
  exact
    { inForce :=
        { least := mode.1
          most := mode.2
          priority := priorityToString_cases _
          dhw := ⟨(Double.single_eq_some dhwCast).2, dhw⟩
          heating := ⟨(Double.single_eq_some heatingCast).2, heating⟩ }
      savedDhw := dhwBuilt
      savedHeating := heatingBuilt }

/--
However requests and passes of the loop interleave, whatever the device does
and whatever the settings file was: a controller that is started again has the
settings of the last call of the callback which could open the file, float for
float.
-/
theorem settings_survive_restart (json : MgJson)
    (client : IModbusClient Device) (file : Option Text) (opens : Nat → Bool)
    (device : Device) (steps : List Step) {initial : Settings}
    (loaded : (SettingsStore.load file).initialSettings = some initial)
    (dhw : SixDecimals initial.dhwTarget)
    (heating : SixDecimals initial.heatingTarget) :
    let stopped :=
      (System.start client initial.loop device).run json client steps
    let history := stopped.world.bus.history
    (SettingsStore.load (storeAfter file opens history).file).initialSettings =
      some (floats (saved initial opens history)) := by
  intro stopped history
  have fresh : WorldSaveable (⟨initial.loop, ⟨device, []⟩⟩ : World Device) :=
    ⟨loopSaveable_initialSettings loaded dhw heating, List.forall_mem_nil _⟩
  have start : SystemSaveable (System.start client initial.loop device) :=
    ⟨System.start_carries Saveable client initial.loop device,
      fresh.publishInitialStatus client⟩
  exact SettingsStore.restart_afterCalls opens
    (start.run json client steps).world.called loaded

/-- A target of tenths in the file, and a working mode that is selected twice;
the file can be opened at the second time only. -/
theorem settings_survive_second_save :
    let file := ascii "ui.dhw_target = 7.1\n"
    let initial : Settings :=
      { workingMode := 3, priority := "dhw"
        dhwTarget := toFloat (71 / 10), heatingTarget := 40 }
    let opens : Nat → Bool := fun call => call = 1
    let stopped := (System.start registerFile initial.loop fun _ => 0).run
      (modeJson "\x7b\"mode\":1\x7d" 1) registerFile
      (selectMode "\x7b\"mode\":1\x7d" ++ selectMode "\x7b\"mode\":1\x7d")
    let history := stopped.world.bus.history
    (SettingsStore.load
      (storeAfter (some file) opens history).file).initialSettings =
        some (floats (saved initial opens history)) :=
  settings_survive_restart (modeJson "\x7b\"mode\":1\x7d" 1) registerFile
    (some (ascii "ui.dhw_target = 7.1\n")) (fun call => call = 1) (fun _ => 0)
    (selectMode "\x7b\"mode\":1\x7d" ++ selectMode "\x7b\"mode\":1\x7d")
    (by decide +kernel) (Or.inr ⟨71, by decide +kernel⟩)
    (Or.inl (by decide +kernel))

end Windmi.Web
