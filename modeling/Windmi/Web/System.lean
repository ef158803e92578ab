import Windmi.Core.Iteration
import Windmi.Web.WebServer

/-!
# The web server and the control loop together

The server answers requests at any time; the control loop checks its
connection, pops commands until the queue is empty, and goes on with them.
Requests may come between any two of these steps, also while the loop drains
the queue.  Processing a command touches neither the server nor the queue, so
the commands of a drain are processed at its end.
-/

namespace Windmi.Web

open Windmi.Core
open Windmi.Modbus

inductive Phase where
  | waiting
  | draining
  deriving DecidableEq, Repr

/-- A request with the answer to it and whether its command was enqueued. -/
structure Answered where
  request : Request
  reply : Reply
  pushed : Bool

structure System (Device : Type) where
  /-- The queue of the server is that of the loop. -/
  server : WebServer
  world : World Device
  phase : Phase := .waiting
  /-- The commands of the running drain. -/
  batch : List Command := []
  /-- All commands popped so far, and all requests answered, in order. -/
  popped : List Command := []
  answered : List Answered := []

inductive Step where
  | request (request : Request)
  | loop
  deriving DecidableEq, Repr

variable {Device : Type}

/-! ## Steps -/

/-- What waits in the queue, oldest first. -/
def WebServer.queued (server : WebServer) : List Command :=
  server.cmdQueue.elim [] fun queue => queue.contents

/-- The pop of `processCommands`, from the queue if there is one. -/
def WebServer.popCommand (server : WebServer) :
    Option Command × WebServer :=
  match server.cmdQueue with
  | none => (none, server)
  | some queue =>
      (queue.pop.1, { server with cmdQueue := some queue.pop.2 })

def System.respond (json : MgJson) (request : Request)
    (system : System Device) : System Device :=
  let handled := system.server.respond json request
  { system with
    server := handled.server
    answered :=
      system.answered ++
        [{ request := request
           reply := handled.reply
           pushed := handled.pushed }] }

/-- The check of the connection at the start of a pass. -/
def System.connect (client : IModbusClient Device)
    (system : System Device) : System Device :=
  if client.isConnected system.world.bus.device then
    { system with phase := .draining }
  else
    let attempt :=
      reconnect client modbusMaxRetries system.world.bus.device
    { system with
      world := system.world.setDevice attempt.2
      phase := if attempt.1 then .draining else .waiting }

/-- One more pop; a pop from the empty queue ends the drain. -/
def System.drain (client : IModbusClient Device)
    (system : System Device) : System Device :=
  match system.server.popCommand with
  | (some cmd, server) =>
      { system with
        server := server
        batch := system.batch ++ [cmd]
        popped := system.popped ++ [cmd] }
  | (none, _) =>
      { system with
        world := iteration client system.batch system.world
        phase := .waiting
        batch := [] }

def System.step (json : MgJson) (client : IModbusClient Device)
    (system : System Device) : Step → System Device
  | .request request => system.respond json request
  | .loop =>
      match system.phase with
      | .waiting => system.connect client
      | .draining => system.drain client

def System.run (json : MgJson) (client : IModbusClient Device)
    (steps : List Step) (system : System Device) : System Device :=
  steps.foldl (System.step json client) system

/-- The system as `main` starts it. -/
def System.start (client : IModbusClient Device) (loop : ControlLoop)
    (device : Device) : System Device where
  server := { cmdQueue := some CmdQueue.create }
  world :=
    publishInitialStatus client
      { loop := loop, bus := { device := device, history := [] } }

/-! ## The queue -/

/-- A pop takes the oldest command from what is queued. -/
theorem WebServer.popCommand_queued (server : WebServer) :
    server.popCommand.1.toList ++ server.popCommand.2.queued =
      server.queued := by
  rcases server with ⟨down, _ | queue⟩
  · rfl
  · exact queue.pop_contents

/-- A server that is up and has a queue. -/
structure WebServer.Ready (server : WebServer) : Prop where
  running : server.shuttingDown = false
  queue : server.cmdQueue.isSome

theorem WebServer.Ready.popCommand {server : WebServer}
    (ready : server.Ready) : server.popCommand.2.Ready := by
  rcases server with ⟨down, _ | queue⟩
  · exact ready
  · exact ⟨ready.running, rfl⟩

/-- A command is enqueued exactly if there is room. -/
theorem WebServer.Ready.enqueue {server : WebServer} (ready : server.Ready)
    (cmd : Command) :
    (server.enqueue cmd).reply = queuedReply ∧
      (server.enqueue cmd).server.Ready ∧
      (server.enqueue cmd).pushed = decide (server.queued.length < 15) ∧
      (server.enqueue cmd).server.queued =
        if server.queued.length < 15 then server.queued ++ [cmd]
        else server.queued := by
  rcases server with ⟨down, _ | queue⟩
  · exact absurd ready.queue (by simp)
  · refine ⟨rfl, ⟨ready.running, rfl⟩, ?_⟩
    by_cases room : queue.HasRoom
    · have within : (⟨down, some queue⟩ : WebServer).queued.length < 15 :=
        room
      rw [if_pos within, decide_eq_true within]
      exact CmdQueue.push_of_room room cmd
    · have full : ¬ (⟨down, some queue⟩ : WebServer).queued.length < 15 :=
        room
      rw [if_neg full, decide_eq_false full]
      simp only [WebServer.enqueue]
      rw [CmdQueue.push_of_full room]
      exact ⟨rfl, rfl⟩

/-! ## Where commands come from -/

/-- What a server queues was queued before or asked for. -/
theorem WebServer.Ready.respond {server : WebServer} (ready : server.Ready)
    (json : MgJson) (request : Request) :
    (server.respond json request).server.Ready ∧
      ∀ cmd ∈ (server.respond json request).server.queued,
        cmd ∈ server.queued ∨ request.command json = some cmd := by
  cases asks : request.command json with
  | none =>
      rcases WebServer.respond_refused ready.running asks with ⟨-, -, same⟩
      rw [same]
      exact ⟨ready, fun cmd inside => Or.inl inside⟩
  | some asked =>
      rw [WebServer.respond_of_command ready.running asks]
      rcases ready.enqueue asked with ⟨-, kept, -, queued⟩
      refine ⟨kept, ?_⟩
      rw [queued]
      split
      · intro cmd inside
        rcases List.mem_append.mp inside with before | new
        · exact Or.inl before
        · exact Or.inr (congrArg some (List.mem_singleton.mp new).symm)
      · exact fun cmd inside => Or.inl inside

/-- Every command on its way to the loop is accepted. -/
structure System.Carries (accepts : Command → Prop)
    (system : System Device) : Prop where
  ready : system.server.Ready
  batch : ∀ cmd ∈ system.batch, accepts cmd
  popped : ∀ cmd ∈ system.popped, accepts cmd
  queued : ∀ cmd ∈ system.server.queued, accepts cmd

theorem System.start_carries (accepts : Command → Prop)
    (client : IModbusClient Device) (loop : ControlLoop) (device : Device) :
    (System.start client loop device).Carries accepts where
  ready := ⟨rfl, rfl⟩
  batch := List.forall_mem_nil _
  popped := List.forall_mem_nil _
  queued := List.forall_mem_nil _

section

variable {accepts : Command → Prop} {system : System Device}

theorem System.Carries.connect (carries : system.Carries accepts)
    (client : IModbusClient Device) :
    (system.connect client).Carries accepts := by
  unfold System.connect
  split <;>
    exact ⟨carries.ready, carries.batch, carries.popped, carries.queued⟩

theorem System.Carries.drain (carries : system.Carries accepts)
    (client : IModbusClient Device) :
    (system.drain client).Carries accepts := by
  have taken := system.server.popCommand_queued
  have ready := carries.ready.popCommand
  have queued := carries.queued
  unfold System.drain
  generalize system.server.popCommand = popping at taken ready ⊢
  rcases popping with ⟨_ | cmd, server⟩
  · exact ⟨carries.ready, List.forall_mem_nil _, carries.popped, queued⟩
  · rw [← taken] at queued
    rcases List.forall_mem_append.mp queued with ⟨now, left⟩
    exact ⟨ready, List.forall_mem_append.mpr ⟨carries.batch, now⟩,
      List.forall_mem_append.mpr ⟨carries.popped, now⟩, left⟩

/-- Only requests bring commands. -/
theorem System.Carries.step (carries : system.Carries accepts)
    (json : MgJson) (client : IModbusClient Device) {step : Step}
    (asked : ∀ request, step = .request request →
      ∀ cmd, request.command json = some cmd → accepts cmd) :
    (system.step json client step).Carries accepts := by
  cases step with
  | request request =>
      rcases carries.ready.respond json request with ⟨ready, sources⟩
      refine ⟨ready, carries.batch, carries.popped, ?_⟩
      intro cmd inside
      rcases sources cmd inside with before | asks
      · exact carries.queued cmd before
      · exact asked request rfl cmd asks
  | loop =>
      simp only [System.step]
      split
      · exact carries.connect client
      · exact carries.drain client

end

/-! ## What the loop sees -/

/--
Worlds change by reconnecting and by iterations, whose commands were popped.
-/
theorem System.step_world {json : MgJson} {client : IModbusClient Device}
    (motive : World Device → Prop)
    (reconnected : ∀ device world, motive world →
      motive (world.setDevice device))
    {system : System Device}
    (iterated : motive system.world →
      motive (iteration client system.batch system.world))
    (step : Step) (holds : motive system.world) :
    motive (system.step json client step).world := by
  cases step with
  | request request => exact holds
  | loop =>
      simp only [System.step]
      split
      · unfold System.connect
        split
        · exact holds
        · exact reconnected _ _ holds
      · unfold System.drain
        split
        · exact holds
        · exact iterated holds

/-! ## Selecting a mode -/

/-- The getters on a body that holds a mode and nothing else. -/
def modeJson (asked : String) (mode : Int) : MgJson where
  getNum _ _ := none
  getStr _ _ := none
  getLong body path default :=
    if body = asked ∧ path = "$.mode" then mode else default

/-- The mode is selected, and one pass of the loop processes the command. -/
def selectMode (body : String) : List Step :=
  [.request { api := .setMode, body := body }, .loop, .loop, .loop]

end Windmi.Web
