import Windmi.Core.Settling
import Windmi.Library.Runs
import Windmi.Utils.Config
import Windmi.Web.System

/-!
# Commands in their domains

What the API documents: which command a body asks for, and which bodies are
errors.  The handlers agree with it except for temperatures which are no
floats, for texts that only begin with a priority, and for working modes,
which nothing checks.  The settings file is a second way to such a mode.
-/

namespace Windmi.Web

open Windmi.Core
open Windmi.Library
open Windmi.Modbus
open Windmi.Utils

variable {Device : Type}

/-! ## Documented domains -/

/-- Off, DHW only, heating only, or both. -/
def ValidMode (mode : Int) : Prop :=
  0 ≤ mode ∧ mode ≤ 3

/-- The command carries a value which the API documents. -/
structure InDomain (cmd : Command) : Prop where
  setpoint : cmd.SetpointInRange
  priority : cmd.type = .setPriority → cmd.intVal = 0 ∨ cmd.intVal = 1
  mode : cmd.type = .setRunningMode → ValidMode cmd.intVal
  occupancy : cmd.type = .setOccupancyMode →
    0 ≤ cmd.intVal ∧ cmd.intVal ≤ 2

def wantedTemperature (json : MgJson) (type : CommandType)
    (minimum maximum : ℚ) (body : String) : Option Command :=
  match json.getNum body "$.temperature" with
  | none => none
  | some temperature =>
      if minimum ≤ temperature ∧ temperature ≤ maximum then
        some { type := type, floatVal := temperature }
      else
        none

def wantedPriority (json : MgJson) (body : String) : Option Command :=
  if json.getStr body "$.priority" = some "dhw" then
    some { type := .setPriority, intVal := 1 }
  else if json.getStr body "$.priority" = some "heating" then
    some { type := .setPriority, intVal := 0 }
  else
    none

def wantedMode (json : MgJson) (type : CommandType) (maximum : Int)
    (body : String) : Option Command :=
  let mode := json.getLong body "$.mode" (-1)
  if 0 ≤ mode ∧ mode ≤ maximum then some { type := type, intVal := mode }
  else none

/-- The command which a request asks for, as the API is documented. -/
def Request.wants (json : MgJson) (request : Request) : Option Command :=
  if request.body = "" then none
  else
    match request.api with
    | .setDhw =>
        wantedTemperature json .setDhwTemp dhwTempMin dhwTempMax request.body
    | .setHeating =>
        wantedTemperature json .setHeatingTemp heatingTempMin heatingTempMax
          request.body
    | .setPriority => wantedPriority json request.body
    | .setMode => wantedMode json .setRunningMode 3 request.body
    | .setOccupancy => wantedMode json .setOccupancyMode 2 request.body

/-- The server enqueues what a request asks for, or refuses it. -/
structure Request.Honoured (json : MgJson) (request : Request) : Prop where
  accepted : ∀ cmd, request.wants json = some cmd →
    ∀ server : WebServer, server.Ready →
      server.respond json request = server.enqueue cmd
  refused : request.wants json = none →
    ∀ server : WebServer, server.Ready →
      (server.respond json request).reply.ClientError ∧
        (server.respond json request).pushed = false ∧
        (server.respond json request).server = server

/-- A temperature of the body that is in range is a float. -/
def Precise (json : MgJson) (minimum maximum : ℚ) (body : String) : Prop :=
  ∀ temperature, json.getNum body "$.temperature" = some temperature →
    minimum ≤ temperature → temperature ≤ maximum →
      toFloat temperature = temperature

/-- A text of the body that begins with a priority is that priority. -/
def Spelled (json : MgJson) (body : String) : Prop :=
  ∀ text, json.getStr body "$.priority" = some text →
    (startsWith "dhw" text = true → text = "dhw") ∧
      (startsWith "heating" text = true → text = "heating")

/-- The body stays clear of what the handlers do not check. -/
def Request.Plain (json : MgJson) (request : Request) : Prop :=
  request.body = "" ∨
    match request.api with
    | .setDhw => Precise json dhwTempMin dhwTempMax request.body
    | .setHeating => Precise json heatingTempMin heatingTempMax request.body
    | .setPriority => Spelled json request.body
    | .setMode =>
        -1 ≤ json.getLong request.body "$.mode" (-1) ∧
          json.getLong request.body "$.mode" (-1) ≤ 3
    | .setOccupancy => True

/-! ## Requests -/

theorem wantedTemperature_eq_some {json : MgJson} {type : CommandType}
    {minimum maximum : ℚ} {body : String} {cmd : Command} :
    wantedTemperature json type minimum maximum body = some cmd ↔
      ∃ temperature, json.getNum body "$.temperature" = some temperature ∧
        minimum ≤ temperature ∧ temperature ≤ maximum ∧
          { type := type, floatVal := temperature } = cmd := by
  unfold wantedTemperature
  cases json.getNum body "$.temperature" with
  | none => simp
  | some temperature => simp [and_assoc]

theorem wantedMode_eq_some {json : MgJson} {type : CommandType}
    {maximum : Int} {body : String} {cmd : Command} :
    wantedMode json type maximum body = some cmd ↔
      0 ≤ json.getLong body "$.mode" (-1) ∧
        json.getLong body "$.mode" (-1) ≤ maximum ∧
        { type := type
          intVal := json.getLong body "$.mode" (-1) } = cmd := by
  simp [wantedMode, and_assoc]

/-- What a request asks for is documented. -/
theorem inDomain_of_wants {json : MgJson} {request : Request}
    {cmd : Command} (wants : request.wants json = some cmd) :
    InDomain cmd := by
  rcases request with ⟨api, body⟩
  unfold Request.wants at wants
  split at wants
  case isTrue => cases wants
  case isFalse =>
    cases api with
    | setDhw =>
        rcases wantedTemperature_eq_some.mp wants with
          ⟨temperature, -, above, below, rfl⟩
        exact ⟨⟨fun _ => ⟨above, below⟩, CommandType.noConfusion⟩,
          CommandType.noConfusion, CommandType.noConfusion,
          CommandType.noConfusion⟩
    | setHeating =>
        rcases wantedTemperature_eq_some.mp wants with
          ⟨temperature, -, above, below, rfl⟩
        exact ⟨⟨CommandType.noConfusion, fun _ => ⟨above, below⟩⟩,
          CommandType.noConfusion, CommandType.noConfusion,
          CommandType.noConfusion⟩
    | setPriority =>
        simp only [wantedPriority] at wants
        split_ifs at wants <;> cases wants
        · exact ⟨⟨CommandType.noConfusion, CommandType.noConfusion⟩,
            fun _ => Or.inr rfl, CommandType.noConfusion,
            CommandType.noConfusion⟩
        · exact ⟨⟨CommandType.noConfusion, CommandType.noConfusion⟩,
            fun _ => Or.inl rfl, CommandType.noConfusion,
            CommandType.noConfusion⟩
    | setMode =>
        rcases wantedMode_eq_some.mp wants with ⟨above, below, rfl⟩
        exact ⟨⟨CommandType.noConfusion, CommandType.noConfusion⟩,
          CommandType.noConfusion, fun _ => ⟨above, below⟩,
          CommandType.noConfusion⟩
    | setOccupancy =>
        rcases wantedMode_eq_some.mp wants with ⟨above, below, rfl⟩
        exact ⟨⟨CommandType.noConfusion, CommandType.noConfusion⟩,
          CommandType.noConfusion, CommandType.noConfusion,
          fun _ => ⟨above, below⟩⟩

/-- A server with an empty queue. -/
def idle : WebServer where
  cmdQueue := some CmdQueue.create

theorem idle_ready : idle.Ready :=
  ⟨rfl, rfl⟩

theorem enqueue_idle (cmd : Command) :
    (idle.enqueue cmd).server.queued = [cmd] := by
  rw [(idle_ready.enqueue cmd).2.2.2]
  rfl

/-- Honouring a request is a matter of parsing it. -/
theorem Request.honoured_iff {json : MgJson} {request : Request} :
    request.Honoured json ↔
      request.command json = request.wants json := by
  have ready := idle_ready
  constructor
  · intro honoured
    cases asks : request.command json with
    | none =>
        have refused := WebServer.respond_refused ready.running asks
        cases wants : request.wants json with
        | none => rfl
        | some cmd =>
            rw [honoured.accepted cmd wants idle ready,
              (ready.enqueue cmd).1] at refused
            exact absurd refused.1.1 (by decide)
    | some cmd =>
        have accepted := WebServer.respond_of_command ready.running asks
        cases wants : request.wants json with
        | none =>
            have refused := (honoured.refused wants idle ready).1
            rw [accepted, (ready.enqueue cmd).1] at refused
            exact absurd refused.1 (by decide)
        | some wanted =>
            rw [honoured.accepted wanted wants idle ready] at accepted
            have same : [wanted] = [cmd] := by
              rw [← enqueue_idle, accepted, enqueue_idle]
            rw [List.cons.inj same |>.1]
  · intro same
    constructor
    · intro cmd wants server ready
      exact WebServer.respond_of_command ready.running (same.trans wants)
    · intro wants server ready
      exact WebServer.respond_refused ready.running (same.trans wants)

/-! ### Where parsing departs from the documentation -/

theorem parseTemperature_toOption {json : MgJson} {type : CommandType}
    {minimum maximum : ℚ} {body : String} :
    (parseTemperature json type minimum maximum body).toOption =
        wantedTemperature json type minimum maximum body ↔
      Precise json minimum maximum body := by
  unfold parseTemperature wantedTemperature Precise
  cases json.getNum body "$.temperature" with
  | none => simp [Except.toOption]
  | some temperature =>
      by_cases inside : minimum ≤ temperature ∧ temperature ≤ maximum
      · have admitted :
            ¬ (temperature < minimum ∨ temperature > maximum) :=
          not_or.mpr ⟨not_lt.mpr inside.1, not_lt.mpr inside.2⟩
        simp only [if_neg admitted, if_pos inside]
        simp [Except.toOption, inside]
      · have refused : temperature < minimum ∨ temperature > maximum := by
          by_contra neither
          rcases not_or.mp neither with ⟨above, below⟩
          exact inside ⟨not_lt.mp above, not_lt.mp below⟩
        simp only [if_pos refused, if_neg inside]
        refine iff_of_true rfl ?_
        rintro _ ⟨⟩ above below
        exact absurd ⟨above, below⟩ inside

theorem parsePriority_toOption {json : MgJson} {body : String} :
    (parsePriority json body).toOption = wantedPriority json body ↔
      Spelled json body := by
  unfold parsePriority wantedPriority Spelled
  cases json.getStr body "$.priority" with
  | none => simp [Except.toOption]
  | some text =>
      by_cases dhw : text = "dhw"
      · have starts : startsWith "dhw" "dhw" = true := by decide +kernel
        have other : startsWith "heating" "dhw" = false := by decide +kernel
        simp [dhw, starts, other, Except.toOption]
      · by_cases heating : text = "heating"
        · have other : startsWith "dhw" "heating" = false := by
            decide +kernel
          have starts : startsWith "heating" "heating" = true := by
            decide +kernel
          simp [heating, starts, other, Except.toOption]
        · by_cases first : startsWith "dhw" text = true
          · simp [dhw, heating, first, Except.toOption]
          · by_cases second : startsWith "heating" text = true <;>
              simp [dhw, heating, first, second, Except.toOption]

/-- Small integers survive the conversion to an `int`. -/
theorem toInt_of_small {value : Int} (lower : 0 ≤ value) (upper : value ≤ 3) :
    toInt value = value := by
  rw [toInt, BitVec.toInt_ofInt]
  exact Int.bmod_eq_of_le (by omega) (by omega)

theorem parseMode_toOption {json : MgJson} {body : String} :
    (parseMode json body).toOption =
        wantedMode json .setRunningMode 3 body ↔
      -1 ≤ json.getLong body "$.mode" (-1) ∧
        json.getLong body "$.mode" (-1) ≤ 3 := by
  simp only [parseMode, wantedMode]
  generalize json.getLong body "$.mode" (-1) = mode
  by_cases missing : mode = -1
  · simp [missing, Except.toOption]
  · rw [if_neg missing]
    by_cases inside : 0 ≤ mode ∧ mode ≤ 3
    · rw [if_pos inside, toInt_of_small inside.1 inside.2]
      exact iff_of_true rfl (by omega)
    · rw [if_neg inside]
      refine iff_of_false (fun same => ?_) (by omega)
      cases same

theorem parseOccupancy_toOption {json : MgJson} {body : String} :
    (parseOccupancy json body).toOption =
      wantedMode json .setOccupancyMode 2 body := by
  simp only [parseOccupancy, wantedMode]
  generalize json.getLong body "$.mode" (-1) = mode
  by_cases inside : 0 ≤ mode ∧ mode ≤ 2
  · rw [if_neg (by omega), if_pos inside,
      toInt_of_small inside.1 (by omega)]
    rfl
  · rw [if_pos (by omega), if_neg inside]
    rfl

/-- A request is honoured exactly if its body is plain. -/
theorem Request.honoured_iff_plain {json : MgJson} {request : Request} :
    request.Honoured json ↔ request.Plain json := by
  rw [Request.honoured_iff]
  rcases request with ⟨api, body⟩
  unfold Request.command Request.wants Request.Plain
  by_cases empty : body = ""
  · simp [empty]
  · simp only [empty, false_or]
    cases api with
    | setDhw => exact parseTemperature_toOption
    | setHeating => exact parseTemperature_toOption
    | setPriority => exact parsePriority_toOption
    | setMode => exact parseMode_toOption
    | setOccupancy => exact iff_of_true parseOccupancy_toOption trivial

/-! ## Runs -/

/-- The desired mode is valid, also between the commands of a drain. -/
def ModesValid (client : IModbusClient Device) (system : System Device) :
    Prop :=
  ∀ earlier later, system.batch = earlier ++ later →
    ValidMode (processCommands client earlier
      system.world).loop.desiredWorkingMode

/-- Commands are documented, and so is the mode of the loop. -/
structure SystemInDomain (client : IModbusClient Device)
    (system : System Device) : Prop where
  popped : ∀ cmd ∈ system.popped, InDomain cmd
  queued : ∀ cmd ∈ system.server.queued, InDomain cmd
  modes : ModesValid client system

section

variable (client : IModbusClient Device) {world : World Device}

theorem validMode_processCommands {batch : List Command}
    (documented : ∀ cmd ∈ batch, InDomain cmd)
    (valid : ValidMode world.loop.desiredWorkingMode) :
    ValidMode (processCommands client batch
      world).loop.desiredWorkingMode := by
  unfold processCommands
  induction batch generalizing world with
  | nil => exact valid
  | cons cmd batch ih =>
      refine ih (fun next inside =>
        documented next (List.mem_cons_of_mem cmd inside)) ?_
      rw [processCommand_desired]
      split
      case isTrue mode =>
        exact (documented cmd (List.mem_cons_self ..)).mode mode
      case isFalse => exact valid

end

/-- Documented requests lead to documented modes. -/
structure Documented (system : System Device) : Prop where
  carries : system.Carries InDomain
  valid : ValidMode system.world.loop.desiredWorkingMode

theorem Documented.inDomain {system : System Device}
    (documented : Documented system) (client : IModbusClient Device) :
    SystemInDomain client system where
  popped := documented.carries.popped
  queued := documented.carries.queued
  modes := by
    intro earlier later split
    refine validMode_processCommands client (fun cmd inside => ?_)
      documented.valid
    refine documented.carries.batch cmd ?_
    rw [split]
    exact List.mem_append_left later inside

theorem Documented.step {json : MgJson} {client : IModbusClient Device}
    {system : System Device} (documented : Documented system) {step : Step}
    (plain : ∀ request, step = .request request → request.Plain json) :
    Documented (system.step json client step) where
  carries := documented.carries.step json client
    fun request asked cmd asks => by
      have honoured := Request.honoured_iff_plain.mpr (plain request asked)
      exact inDomain_of_wants
        ((Request.honoured_iff.mp honoured).symm.trans asks)
  valid :=
    System.step_world
      (fun world => ValidMode world.loop.desiredWorkingMode)
      (fun _ _ valid => valid)
      (fun valid => by
        rw [iteration_desired]
        exact validMode_processCommands client documented.carries.batch
          valid)
      step documented.valid

/--
Every request of a run is honoured, its commands are documented and so is the
mode of the loop at any time, if and only if the bodies stay clear of what is
not checked and the settings file starts the loop in a valid mode.
-/
theorem documented_iff_plain (json : MgJson)
    (client : IModbusClient Device) (config : Config)
    (dhwTarget heatingTarget : ℚ) (device : Device) (steps : List Step) :
    let start := System.start client
      (config.settings dhwTarget heatingTarget).loop device
    ((∀ request, .request request ∈ steps → request.Honoured json) ∧
      ∀ earlier later, steps = earlier ++ later →
        SystemInDomain client (start.run json client earlier)) ↔
      (∀ request, .request request ∈ steps → request.Plain json) ∧
        ValidMode (config.getInt "ui.working_mode" 3) := by
  intro start
  have initial : start.world.loop.desiredWorkingMode =
      config.getInt "ui.working_mode" 3 :=
    publishInitialStatus_desired client _
  constructor
  · rintro ⟨honoured, inDomain⟩
    refine ⟨fun request inside =>
      Request.honoured_iff_plain.mp (honoured request inside), ?_⟩
    rw [← initial]
    exact (inDomain [] steps rfl).modes [] [] rfl
  · rintro ⟨plain, valid⟩
    refine ⟨fun request inside =>
      Request.honoured_iff_plain.mpr (plain request inside), ?_⟩
    have documented : Documented start := by
      refine ⟨System.start_carries _ client _ device, ?_⟩
      rw [initial]
      exact valid
    intro earlier later split
    refine Documented.inDomain ?_ client
    refine foldl_invariant (System.step json client) Documented documented
      ?_ earlier later split
    intro before step after split kept
    refine kept.step fun request asked => plain request ?_
    rw [split, ← asked]
    exact List.mem_append_right before (List.mem_cons_self ..)

/-! ## A mode that nobody knows -/

/-- No settings file. -/
def missing : Config where
  values _ := none

def unknownMode : String :=
  "\x7b\"mode\":7\x7d"

def startedPlain : System RegisterFile :=
  System.start registerFile (missing.settings 45 40).loop fun _ => 0

/-- Mode 7 is accepted like the documented ones. -/
theorem unknown_mode_accepted :
    ¬ ((∀ request, .request request ∈ selectMode unknownMode →
          request.Honoured (modeJson unknownMode 7)) ∧
        ∀ earlier later,
          selectMode unknownMode = earlier ++ later →
            SystemInDomain registerFile
              (startedPlain.run (modeJson unknownMode 7) registerFile
                earlier)) := by
  rintro ⟨-, inDomain⟩
  have last := (inDomain (selectMode unknownMode) []
    (List.append_nil _).symm).modes [] []
  have reached : (startedPlain.run (modeJson unknownMode 7) registerFile
      (selectMode unknownMode)).world.loop.desiredWorkingMode = 7 := by
    decide +kernel
  have drained : (startedPlain.run (modeJson unknownMode 7) registerFile
      (selectMode unknownMode)).batch = [] := by
    decide +kernel
  have valid := (last drained).2
  exact absurd (reached.symm.trans_le valid) (by decide)

end Windmi.Web
