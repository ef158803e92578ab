import Windmi.Core.PriorityRegister
import Windmi.Web.System

/-!
# The modes of the page

`setWorkingMode` and `updateUI` of `static/app.js` speak of five modes, the
loop of four working modes and a priority.  The handler of `/api/set-mode`
drops the priority which the page sends along, and in mode 3 the loop enforces
the priority of the tank, so the fifth mode never comes back.
-/

namespace Windmi.Web

open Windmi.Core
open Windmi.Modbus

/-! ## The page -/

/-- `backendMode` -/
def backendMode (mode : Int) : Int :=
  if mode = 0 then 0
  else if mode = 3 ∨ mode = 4 then 3
  else mode

/-- `currentPriority` -/
def modePriority (mode : Int) : String :=
  if mode = 3 ∨ mode = 1 then "dhw" else "heating"

/-- The request of `setWorkingMode`, as `JSON.stringify` writes it. -/
def setWorkingMode (mode : Int) : Request where
  api := .setMode
  body :=
    "\x7b\"mode\":" ++ toString (backendMode mode) ++ ",\"priority\":\"" ++
      modePriority mode ++ "\"\x7d"

/-- The fields of the status reply which `updateUI` looks at. -/
structure StatusReply where
  workingMode : Int
  priority : String
  deriving DecidableEq, Repr

/-- `apiStatusHandler` on a snapshot. -/
def apiStatus (status : StatusSnapshot) : StatusReply where
  workingMode := status.workingMode
  priority := if status.dhwPriority then "dhw" else "heating"

/-- `displayMode` of `updateUI` -/
def displayMode (reply : StatusReply) : Int :=
  if reply.workingMode = 0 then 0
  else if reply.workingMode = 1 then 1
  else if reply.workingMode = 2 then 2
  else if reply.workingMode = 3 then
    if reply.priority = "dhw" then 3 else 4
  else 3

/-- The snapshot published last. -/
def lastStatus (history : List Event) : Option StatusSnapshot :=
  history.findSome? fun event =>
    match event with
    | .publish status => some status
    | _ => none

/-- What the page displays after a history. -/
def displayed (history : List Event) : Option Int :=
  (lastStatus history).map fun status => displayMode (apiStatus status)

/-- The getters find the mode in what the page sends. -/
def ReadsModes (json : MgJson) : Prop :=
  ∀ mode, 0 ≤ mode → mode ≤ 4 →
    json.getLong (setWorkingMode mode).body "$.mode" (-1) = backendMode mode

/-- Neither the working mode nor the priority is set. -/
def Quiet (cmd : Command) : Prop :=
  cmd.type ≠ .setRunningMode ∧ cmd.type ≠ .setPriority

/-! ## Quiet commands -/

theorem Quiet.setsNothing {cmd : Command} (quiet : Quiet cmd) :
    ¬ cmd.SetsPriority := by
  rintro (priority | ⟨mode, -⟩)
  · exact quiet.2 priority
  · exact quiet.1 mode

/-- The modes, the priority and its register after quiet commands. -/
theorem processCommands_quiet {batch : List Command}
    (quiet : ∀ cmd ∈ batch, Quiet cmd) (world : World RegisterFile) :
    let after := processCommands registerFile batch world
    after.loop.desiredWorkingMode = world.loop.desiredWorkingMode ∧
      after.loop.currentPriority = world.loop.currentPriority ∧
      after.bus.device regDhwPriority = world.bus.device regDhwPriority := by
  intro after
  have priority := processCommands_keeps_priority world
    fun cmd inside => (quiet cmd inside).setsNothing
  refine ⟨?_, priority⟩
  refine List.foldlRecOn
    (motive := fun after : World RegisterFile =>
      after.loop.desiredWorkingMode = world.loop.desiredWorkingMode)
    batch _ rfl ?_
  intro previous same cmd inside
  rw [processCommand_desired, if_neg (quiet cmd inside).1]
  exact same

/-! ## What is displayed after an iteration -/

theorem displayed_publish (status : StatusSnapshot) (mode : Int)
    (world : World RegisterFile) :
    displayed (world.emit
        (.publish { status with workingMode := mode })).bus.history =
      some (displayMode
        { workingMode := mode
          priority := if status.dhwPriority then "dhw" else "heating" }) :=
  rfl

theorem displayed_iteration (batch : List Command)
    (world : World RegisterFile) :
    let commanded := processCommands registerFile batch world
    displayed (iteration registerFile batch world).bus.history =
      some (displayMode
        { workingMode := commanded.loop.desiredWorkingMode
          priority :=
            if (commanded.bus.device regDhwPriority).toInt ≠ 0 then "dhw"
            else "heating" }) := by
  intro commanded
  let controlled :=
    applyControlLogic registerFile (polledStatus commanded)
      (polledWorld commanded)
  have whole := iteration_registerFile batch world
  have desired : controlled.loop.desiredWorkingMode =
      commanded.loop.desiredWorkingMode :=
    (congrArg (fun world => world.loop.desiredWorkingMode) whole).symm.trans
      (iteration_desired registerFile world batch)
  have priority : (polledStatus commanded).dhwPriority =
      decide ((commanded.bus.device regDhwPriority).toInt ≠ 0) := by
    rw [polledStatus, pollFrame_dhwPriority, contents, Option.elim_some]
  rw [whole, displayed_publish, desired, priority]
  simp only [decide_eq_true_eq]

/-! ## Selecting a mode -/

/-- Both modes of the page that need a priority get that of the tank. -/
theorem selectBoth_priority {cmd : Command} {world : World RegisterFile}
    (kind : cmd.type = .setRunningMode) (both : cmd.intVal = 3) :
    (processCommand registerFile cmd world).loop.currentPriority = .dhw ∧
      (processCommand registerFile cmd world).bus.device regDhwPriority =
        1 := by
  simp only [processCommand, kind, processSetRunningMode, both]
  exact ⟨rfl, rfl⟩

theorem selected_desired {cmd : Command} {world : World RegisterFile}
    (kind : cmd.type = .setRunningMode) :
    (processCommand registerFile cmd world).loop.desiredWorkingMode =
      cmd.intVal := by
  rw [processCommand_desired, if_pos kind]

/-- The mode and, for mode 3, the priority that the next poll finds. -/
theorem selected_confirmed {cmd : Command}
    {earlier later next : List Command} (world : World RegisterFile)
    (kind : cmd.type = .setRunningMode)
    (quietLater : ∀ cmd ∈ later, Quiet cmd)
    (quietNext : ∀ cmd ∈ next, Quiet cmd) :
    let processed :=
      iteration registerFile (earlier ++ cmd :: later) world
    let polled := processCommands registerFile next processed
    polled.loop.desiredWorkingMode = cmd.intVal ∧
      (cmd.intVal = 3 → polled.bus.device regDhwPriority = 1) := by
  intro processed polled
  let selected := processCommand registerFile cmd
    (processCommands registerFile earlier world)
  have first := processCommands_quiet quietLater selected
  rw [← processCommands_append_cons] at first
  have second := processCommands_quiet quietNext processed
  have enforced := iteration_regDhwPriority (earlier ++ cmd :: later) world
  have desired : processed.loop.desiredWorkingMode = cmd.intVal :=
    enforced.1.trans (first.1.trans (selected_desired kind))
  refine ⟨second.1.trans desired, ?_⟩
  intro both
  rcases @selectBoth_priority cmd
    (processCommands registerFile earlier world) kind both with
      ⟨memory, register⟩
  have required : requiredPriority
      (processCommands registerFile (earlier ++ cmd :: later)
        world).loop.desiredWorkingMode = some .dhw := by
    rw [first.1, selected_desired kind, both]
    rfl
  have kept := (enforcedPriority_eq_iff required).mpr
    (Or.inl (first.2.2.trans (register.trans (by
      rw [first.2.1, memory]
      rfl))))
  exact second.2.2.trans (enforced.2.trans kept)

/-! ## Selecting a priority -/

theorem processSetPriority_priority {cmd : Command}
    {world : World RegisterFile} (kind : cmd.type = .setPriority) :
    (processCommand registerFile cmd world).loop.currentPriority =
        (if cmd.intVal = 1 then .dhw else .heating) ∧
      (processCommand registerFile cmd world).bus.device regDhwPriority =
        BitVec.ofInt 16 cmd.intVal := by
  simp only [processCommand, kind, processSetPriority]
  exact ⟨rfl, rfl⟩

/-- In mode 3 a priority survives its own iteration if it is the tank's. -/
theorem prioritySurvives_iff {cmd : Command} {earlier later : List Command}
    {world : World RegisterFile} (kind : cmd.type = .setPriority)
    (inRange : cmd.intVal = 0 ∨ cmd.intVal = 1)
    (quietLater : ∀ cmd ∈ later, Quiet cmd)
    (both : (processCommands registerFile earlier
      world).loop.desiredWorkingMode = 3) :
    (iteration registerFile (earlier ++ cmd :: later)
        world).bus.device regDhwPriority = BitVec.ofInt 16 cmd.intVal ↔
      cmd.intVal = 1 := by
  let selected := processCommand registerFile cmd
    (processCommands registerFile earlier world)
  have first := processCommands_quiet quietLater selected
  rw [← processCommands_append_cons] at first
  have enforced := iteration_regDhwPriority (earlier ++ cmd :: later) world
  rcases @processSetPriority_priority cmd
    (processCommands registerFile earlier world) kind with
      ⟨memory, register⟩
  have desired : (processCommands registerFile (earlier ++ cmd :: later)
      world).loop.desiredWorkingMode = 3 := by
    rw [first.1, processCommand_desired, if_neg (by rw [kind]; decide), both]
  have required : requiredPriority
      (processCommands registerFile (earlier ++ cmd :: later)
        world).loop.desiredWorkingMode = some .dhw := by
    rw [desired]
    rfl
  -- the enforcement leaves the tank's priority, whatever was selected
  have kept : enforcedPriority
      (processCommands registerFile (earlier ++ cmd :: later) world).loop
      (BitVec.ofInt 16 cmd.intVal) = priorityWord .dhw := by
    refine (enforcedPriority_eq_iff required).mpr ?_
    rw [first.2.1, memory]
    rcases inRange with heating | dhw
    · rw [heating]
      exact Or.inr (by decide)
    · rw [dhw]
      exact Or.inl rfl
  rw [enforced.2, first.2.2, register, kept]
  rcases inRange with heating | dhw
  · rw [heating]
    decide
  · rw [dhw]
    decide

/-! ## What the page selects -/

theorem mode_cases {mode : Int} (lower : 0 ≤ mode) (upper : mode ≤ 4) :
    mode = 0 ∨ mode = 1 ∨ mode = 2 ∨ mode = 3 ∨ mode = 4 := by
  omega

/-- The command of a selected mode. -/
theorem command_setWorkingMode {json : MgJson} (reads : ReadsModes json)
    {mode : Int} (lower : 0 ≤ mode) (upper : mode ≤ 4) {cmd : Command}
    (accepted : (setWorkingMode mode).command json = some cmd) :
    cmd.type = .setRunningMode ∧ cmd.intVal = backendMode mode := by
  have parsed := (Request.command_eq_some.mp accepted).2
  have equal := (parseMode_ok parsed).2
  rw [reads mode lower upper] at equal
  rw [equal]
  refine ⟨rfl, ?_⟩
  rcases mode_cases lower upper with rfl | rfl | rfl | rfl | rfl <;> decide

theorem displayMode_backendMode {mode : Int} (lower : 0 ≤ mode)
    (upper : mode ≤ 4) {register : Word}
    (priority : backendMode mode = 3 → register = 1) :
    displayMode
        { workingMode := backendMode mode
          priority := if register.toInt ≠ 0 then "dhw" else "heating" } =
      mode ↔ mode ≠ 4 := by
  rcases mode_cases lower upper with rfl | rfl | rfl | rfl | rfl
  · simp [displayMode, backendMode]
  · simp [displayMode, backendMode]
  · simp [displayMode, backendMode]
  · rw [priority rfl]
    decide
  · rw [priority rfl]
    decide

/--
Every mode of the page but the last is displayed again after the iteration
which processed it and the next one, and in mode 3 the priority of the tank is
the only one that survives its iteration.
-/
theorem selection_survives_iff {json : MgJson} (reads : ReadsModes json)
    (world : World RegisterFile) {earlier later next : List Command}
    (quietLater : ∀ cmd ∈ later, Quiet cmd)
    (quietNext : ∀ cmd ∈ next, Quiet cmd) :
    (∀ mode, 0 ≤ mode → mode ≤ 4 →
      ∀ cmd, (setWorkingMode mode).command json = some cmd →
        let processed :=
          iteration registerFile (earlier ++ cmd :: later) world
        let confirmed := iteration registerFile next processed
        displayed confirmed.bus.history = some mode ↔ mode ≠ 4) ∧
      ∀ body text, json.getStr body "$.priority" = some text →
        ∀ cmd,
          Request.command json { api := .setPriority, body := body } =
              some cmd →
            (processCommands registerFile earlier
                world).loop.desiredWorkingMode = 3 →
              let processed :=
                iteration registerFile (earlier ++ cmd :: later) world
              processed.bus.device regDhwPriority =
                  BitVec.ofInt 16 cmd.intVal ↔
                startsWith "dhw" text = true := by
  constructor
  case left =>
    intro mode lower upper cmd accepted processed confirmed
    rcases command_setWorkingMode reads lower upper accepted with
      ⟨kind, selected⟩
    rcases @selected_confirmed cmd earlier later next world kind quietLater
      quietNext with ⟨desired, priority⟩
    rw [selected] at desired priority
    rw [displayed_iteration, Option.some.injEq, desired]
    exact displayMode_backendMode lower upper priority
  case right =>
    intro body text found cmd accepted both processed
    have parsed := (Request.command_eq_some.mp accepted).2
    rcases parsePriority_ok parsed with ⟨priority, asked, value⟩
    rw [found] at asked
    cases asked
    rcases value with ⟨dhw, rfl⟩ | ⟨notDhw, -, rfl⟩
    · refine (prioritySurvives_iff rfl (Or.inr rfl) quietLater both).trans ?_
      exact iff_of_true rfl dhw
    · refine (prioritySurvives_iff rfl (Or.inl rfl) quietLater both).trans ?_
      refine iff_of_false (by decide) ?_
      rw [notDhw]
      decide

/-- Getters that know the bodies of the page. -/
def pageJson : MgJson where
  getNum _ _ := none
  getStr _ _ := none
  getLong body path default :=
    if path = "$.mode" then
      ([0, 1, 2, 3, 4].find? fun mode =>
        body = (setWorkingMode mode).body).elim default backendMode
    else
      default

theorem pageJson_reads : ReadsModes pageJson := by
  intro mode lower upper
  rcases mode_cases lower upper with rfl | rfl | rfl | rfl | rfl <;>
    decide +kernel

/-- The loop on a device that holds zeros, before its first iteration. -/
def freshWorld : World RegisterFile :=
  threadRun registerFile defaultSettings.loop (fun _ => 0) []

/-- What is displayed after a mode was selected in a fresh world. -/
def displayedAfter (cmd : Command) : Option Int :=
  displayed (iteration registerFile []
    (iteration registerFile [cmd] freshWorld)).bus.history

theorem selection_survives_iff_heatingOnly :
    displayedAfter { type := .setRunningMode, intVal := 2 } = some 2 := by
  have accepted : (setWorkingMode 2).command pageJson =
      some { type := .setRunningMode, intVal := 2 } := by
    decide +kernel
  have survives := @selection_survives_iff pageJson pageJson_reads
    freshWorld [] [] [] (List.forall_mem_nil _) (List.forall_mem_nil _)
  exact (survives.1 2 (by decide) (by decide) _ accepted).mpr (by decide)

/-- The priority of the heating is not what the page gets back. -/
theorem heating_priority_lost :
    (setWorkingMode 4).command pageJson =
        some { type := .setRunningMode, intVal := 3 } ∧
      ¬ displayedAfter { type := .setRunningMode, intVal := 3 } =
        some 4 := by
  constructor
  · decide +kernel
  · decide +kernel

end Windmi.Web
