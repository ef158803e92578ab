import Windmi.Modbus.Shutdown
import Windmi.Web.System

/-!
# From the start of the threads to the end of `main`

The thread of `main` answers requests until a signal comes.  Then it stops the
web server, waits for the thread of the control loop, and switches the unit off
through a client of its own.  The control loop looks at the request to stop
only at the head of its loop and between two attempts to reconnect, so that a
pass may still be under way, and a reconnection may be given up without a
connection and be followed by the rest of the pass.
-/

namespace Windmi.Web

open Windmi.Core
open Windmi.Modbus

/-! ## The two threads -/

/-- Where `threadFunc` stands. -/
inductive LoopPhase where
  | starting
  | head
  | reconnecting (retries : Nat)
  | draining
  | exited
  deriving DecidableEq, Repr

/-- Where `main` stands; `stopping` and `joining` are in `ControlLoop::stop`. -/
inductive MainPhase where
  | serving
  | stopping
  | joining
  | disconnecting
  | switchingOff (attempts : Nat)
  | finished (offWritten : Bool)
  deriving DecidableEq, Repr

/--
The program with the client of the loop and that for the shutdown.  Both reach
the same unit, so that the history of the bus has the writes of both.
-/
structure Program (Device Off : Type) where
  server : WebServer
  world : World Device
  /-- The commands of the running drain. -/
  batch : List Command := []
  loop : LoopPhase := .starting
  stopRequested : Bool := false
  main : MainPhase := .serving
  off : Off

/-- A step of `main` while it serves is the arrival of a signal. -/
inductive Move where
  | request (request : Request)
  | main
  | loop
  deriving DecidableEq, Repr

/-- What the program runs on; each shutdown attempt has a link of its own. -/
structure Setup (σ Device Off : Type) where
  json : MgJson
  client : IModbusClient Device
  shutdownClient : Opening σ → IModbusClient Off
  links : Nat → Opening σ
  demoMode : Bool

/-- `main` has come past the join of the thread of the loop. -/
def MainPhase.Joined : MainPhase → Prop
  | .disconnecting | .switchingOff _ | .finished _ => True
  | _ => False

/-- `main` has asked the loop to stop. -/
def MainPhase.Stopping : MainPhase → Prop
  | .serving | .stopping => False
  | _ => True

/-- The attempts to switch the unit off that are still to come. -/
def MainPhase.remaining : MainPhase → Nat
  | .switchingOff attempts => shutdownMaxAttempts - attempts
  | .finished _ => 0
  | _ => shutdownMaxAttempts

theorem MainPhase.Joined.stopping {phase : MainPhase}
    (joined : phase.Joined) : phase.Stopping := by
  cases phase with
  | serving => exact joined
  | stopping => exact joined
  | joining => trivial
  | disconnecting => trivial
  | switchingOff attempts => trivial
  | finished written => trivial

theorem MainPhase.Stopping.ne_serving {phase : MainPhase}
    (stopping : phase.Stopping) : phase ≠ .serving := by
  rintro rfl
  exact stopping

namespace Program

variable {σ Device Off : Type}

/-- The program right after `start`, with the clients that `main` creates. -/
def start (loop : ControlLoop) (device : Device) (off : Off) :
    Program Device Off where
  server := { cmdQueue := some CmdQueue.create }
  world := { loop := loop, bus := { device := device, history := [] } }
  off := off

/-- The handlers run in the thread of `main`, as long as it serves. -/
def handle (setup : Setup σ Device Off) (request : Request)
    (program : Program Device Off) : Program Device Off :=
  if program.main = .serving then
    { program with
      server := (program.server.respond setup.json request).server }
  else
    program

/-- An attempt that connects is a write on the bus. -/
def switchOff (setup : Setup σ Device Off) (attempts : Nat)
    (program : Program Device Off) : Program Device Off :=
  let client := setup.shutdownClient (setup.links attempts)
  let attempt := shutdownAttempt client program.off
  { program with
    world :=
      if (client.connect program.off).1 then
        program.world.emit (.write regRunningMode 0 attempt.1
          program.world.loop.desiredWorkingMode)
      else
        program.world
    main := if attempt.1 then .finished true else .switchingOff (attempts + 1)
    off := attempt.2 }

def mainStep (setup : Setup σ Device Off) (program : Program Device Off) :
    Program Device Off :=
  match program.main with
  | .serving =>
      { program with
        server := { program.server with shuttingDown := true }
        main := .stopping }
  | .stopping => { program with stopRequested := true, main := .joining }
  | .joining =>
      if program.loop = .exited then
        { program with main := .disconnecting }
      else
        program
  | .disconnecting =>
      { program with
        world := program.world.setDevice
          (setup.client.disconnect program.world.bus.device)
        main := if setup.demoMode then .finished false else .switchingOff 0 }
  | .switchingOff attempts =>
      if attempts < shutdownMaxAttempts then
        program.switchOff setup attempts
      else
        { program with main := .finished false }
  | .finished _ => program

/-- The loop goes on with the pass if a stop ends the attempts early. -/
def reconnectStep (setup : Setup σ Device Off) (retries : Nat)
    (program : Program Device Off) : Program Device Off :=
  if program.stopRequested ∨ modbusMaxRetries ≤ retries then
    { program with
      loop := if modbusMaxRetries ≤ retries then .head else .draining }
  else
    let attempt := setup.client.connect program.world.bus.device
    { program with
      world := program.world.setDevice attempt.2
      loop := if attempt.1 then .draining else .reconnecting (retries + 1) }

/-- One more pop; the rest of the pass follows a pop from the empty queue. -/
def drainStep (setup : Setup σ Device Off) (program : Program Device Off) :
    Program Device Off :=
  match program.server.popCommand with
  | (some cmd, server) =>
      { program with server := server, batch := program.batch ++ [cmd] }
  | (none, _) =>
      { program with
        world := iteration setup.client program.batch program.world
        batch := []
        loop := .head }

def loopStep (setup : Setup σ Device Off) (program : Program Device Off) :
    Program Device Off :=
  match program.loop with
  | .starting =>
      { program with
        world := publishInitialStatus setup.client program.world
        loop := .head }
  | .head =>
      if program.stopRequested then
        { program with
          world := program.world.setDevice
            (setup.client.disconnect program.world.bus.device)
          loop := .exited }
      else if setup.client.isConnected program.world.bus.device then
        { program with loop := .draining }
      else
        { program with loop := .reconnecting 0 }
  | .reconnecting retries => program.reconnectStep setup retries
  | .draining => program.drainStep setup
  | .exited => program

def step (setup : Setup σ Device Off) (program : Program Device Off) :
    Move → Program Device Off
  | .request request => program.handle setup request
  | .main => program.mainStep setup
  | .loop => program.loopStep setup

/-- Any interleaving of requests and of the steps of the two threads. -/
def run (setup : Setup σ Device Off) (moves : List Move)
    (program : Program Device Off) : Program Device Off :=
  moves.foldl (step setup) program

/-- An attempt that succeeds has connected. -/
theorem connect_of_shutdownAttempt {client : IModbusClient Off}
    {device : Off} (written : (shutdownAttempt client device).1 = true) :
    (client.connect device).1 = true := by
  by_contra refused
  simp only [shutdownAttempt, if_neg refused] at written
  exact Bool.false_ne_true written

/-! ## What the two threads know of each other -/

/-- The loop has returned when `main` goes on, after it was asked to. -/
structure Sound (program : Program Device Off) : Prop where
  exited : program.main.Joined → program.loop = .exited
  stopped : program.main.Stopping → program.stopRequested = true
  accepted : program.main = .finished true → ∃ desired earlier,
    program.world.bus.history =
      .write regRunningMode 0 true desired :: earlier

theorem start_sound (loop : ControlLoop) (device : Device) (off : Off) :
    (start loop device off).Sound where
  exited := False.elim
  stopped := False.elim
  accepted := nofun

section

variable {setup : Setup σ Device Off} {program : Program Device Off}

/-- The handlers do not change where `main` stands. -/
theorem handle_main (request : Request) :
    (program.handle setup request).main = program.main := by
  unfold Program.handle
  split
  · rfl
  · rfl

theorem handle_of_stopping (stopping : program.main.Stopping)
    (request : Request) : program.handle setup request = program :=
  if_neg stopping.ne_serving

/-- Past the join `main` can rely on the loop having returned. -/
theorem Sound.returned (sound : program.Sound)
    (joined : program.main.Joined) :
    program.loop = .exited ∧ program.stopRequested = true :=
  ⟨sound.exited joined, sound.stopped joined.stopping⟩

theorem Sound.handle (sound : program.Sound) (request : Request) :
    (program.handle setup request).Sound := by
  unfold Program.handle
  split
  · exact ⟨sound.exited, sound.stopped, sound.accepted⟩
  · exact sound

theorem Sound.switchOff (sound : program.Sound) {attempts : Nat}
    (switching : program.main = .switchingOff attempts) :
    (program.switchOff setup attempts).Sound := by
  have joined : program.main.Joined := by
    rw [switching]
    trivial
  rcases sound.returned joined with ⟨exited, stopped⟩
  refine ⟨fun _ => exited, fun _ => stopped, ?_⟩
  intro finished
  simp only [Program.switchOff] at finished ⊢
  split at finished
  case isTrue written =>
    rw [if_pos (connect_of_shutdownAttempt written), written]
    exact ⟨_, _, rfl⟩
  case isFalse => cases finished

theorem Sound.mainStep (sound : program.Sound) :
    (program.mainStep setup).Sound := by
  unfold Program.mainStep
  split
  case h_1 => exact ⟨False.elim, False.elim, nofun⟩
  case h_2 => exact ⟨False.elim, fun _ => rfl, nofun⟩
  case h_3 joining =>
    have stopping : program.main.Stopping := by
      rw [joining]
      trivial
    have stopped := sound.stopped stopping
    split
    case isTrue exited => exact ⟨fun _ => exited, fun _ => stopped, nofun⟩
    case isFalse => exact sound
  case h_4 disconnecting =>
    have joined : program.main.Joined := by
      rw [disconnecting]
      trivial
    rcases sound.returned joined with ⟨exited, stopped⟩
    refine ⟨fun _ => exited, fun _ => stopped, ?_⟩
    dsimp only
    split
    · exact nofun
    · exact nofun
  case h_5 attempts switching =>
    split
    case isTrue => exact sound.switchOff switching
    case isFalse =>
      have joined : program.main.Joined := by
        rw [switching]
        trivial
      rcases sound.returned joined with ⟨exited, stopped⟩
      exact ⟨fun _ => exited, fun _ => stopped, nofun⟩
  case h_6 => exact sound

/-- A step of the loop leaves `main` alone. -/
structure LeavesMain (before after : Program Device Off) : Prop where
  main : after.main = before.main
  stopRequested : after.stopRequested = before.stopRequested
  off : after.off = before.off

theorem loopStep_leavesMain :
    LeavesMain program (program.loopStep setup) := by
  unfold Program.loopStep
  split
  case h_1 => exact ⟨rfl, rfl, rfl⟩
  case h_2 =>
    split_ifs
    · exact ⟨rfl, rfl, rfl⟩
    · exact ⟨rfl, rfl, rfl⟩
    · exact ⟨rfl, rfl, rfl⟩
  case h_3 retries reconnecting =>
    unfold Program.reconnectStep
    split
    · exact ⟨rfl, rfl, rfl⟩
    · exact ⟨rfl, rfl, rfl⟩
  case h_4 =>
    unfold Program.drainStep
    split
    · exact ⟨rfl, rfl, rfl⟩
    · exact ⟨rfl, rfl, rfl⟩
  case h_5 => exact ⟨rfl, rfl, rfl⟩

theorem loopStep_of_exited (exited : program.loop = .exited) :
    program.loopStep setup = program := by
  unfold Program.loopStep
  rw [exited]

theorem Sound.loopStep (sound : program.Sound) :
    (program.loopStep setup).Sound := by
  have leaves := @loopStep_leavesMain _ _ _ setup program
  by_cases joined : program.main.Joined
  · rw [loopStep_of_exited (sound.exited joined)]
    exact sound
  · constructor
    · rw [leaves.main]
      exact fun other => absurd other joined
    · rw [leaves.main, leaves.stopRequested]
      exact sound.stopped
    · rw [leaves.main]
      intro finished
      rw [finished] at joined
      exact absurd trivial joined

theorem Sound.step (sound : program.Sound) (move : Move) :
    (program.step setup move).Sound := by
  cases move with
  | request request => exact sound.handle request
  | main => exact sound.mainStep
  | loop => exact sound.loopStep

theorem Sound.run (sound : program.Sound) (moves : List Move) :
    (program.run setup moves).Sound := by
  induction moves generalizing program with
  | nil => exact sound
  | cons move moves ih => exact ih (sound.step move)

end

/-! ## After the join -/

/-- From one state to another nothing but attempts to switch off happens. -/
structure OnlyOff (before after : Program Device Off) : Prop where
  joined : after.main.Joined
  loop : after.world.loop = before.world.loop
  written : ∃ offs,
    after.world.bus.history = offs ++ before.world.bus.history ∧
      offs.length + after.main.remaining ≤ before.main.remaining ∧
      ∀ event ∈ offs, ∃ accepted,
        event = .write regRunningMode 0 accepted
          before.world.loop.desiredWorkingMode

section

variable {setup : Setup σ Device Off} {program : Program Device Off}

/-- A step that puts nothing on the bus. -/
theorem OnlyOff.quiet {after : Program Device Off}
    (joined : after.main.Joined)
    (loop : after.world.loop = program.world.loop)
    (history : after.world.bus.history = program.world.bus.history)
    (remaining : after.main.remaining ≤ program.main.remaining) :
    OnlyOff program after where
  joined := joined
  loop := loop
  written := by
    refine ⟨[], history, ?_, List.forall_mem_nil _⟩
    rw [List.length_nil, Nat.zero_add]
    exact remaining

theorem OnlyOff.switchOff {attempts : Nat}
    (switching : program.main = .switchingOff attempts)
    (more : attempts < shutdownMaxAttempts) :
    OnlyOff program (program.switchOff setup attempts) := by
  have before : program.main.remaining = shutdownMaxAttempts - attempts := by
    rw [switching]
    rfl
  have after : (program.switchOff setup attempts).main.remaining + 1 ≤
      program.main.remaining := by
    rw [before]
    simp only [Program.switchOff]
    split
    · exact Nat.sub_pos_of_lt more
    · exact Nat.sub_succ_lt_self _ _ more
  have joined : (program.switchOff setup attempts).main.Joined := by
    simp only [Program.switchOff]
    split
    · trivial
    · trivial
  by_cases connected : ((setup.shutdownClient (setup.links attempts)).connect
      program.off).1 = true
  · have world : (program.switchOff setup attempts).world =
        program.world.emit (.write regRunningMode 0
          (shutdownAttempt (setup.shutdownClient (setup.links attempts))
            program.off).1 program.world.loop.desiredWorkingMode) :=
      if_pos connected
    refine ⟨joined, ?_,
      [.write regRunningMode 0
        (shutdownAttempt (setup.shutdownClient (setup.links attempts))
          program.off).1 program.world.loop.desiredWorkingMode],
      ?_, ?_, ?_⟩
    · rw [world]
      rfl
    · rw [world]
      rfl
    · rw [List.length_singleton, Nat.add_comm]
      exact after
    · exact List.forall_mem_singleton.mpr ⟨_, rfl⟩
  · have world : (program.switchOff setup attempts).world = program.world :=
      if_neg connected
    apply OnlyOff.quiet joined
    · rw [world]
    · rw [world]
    · exact Nat.le_of_succ_le after

theorem OnlyOff.mainStep (joined : program.main.Joined) :
    OnlyOff program (program.mainStep setup) := by
  unfold Program.mainStep
  split
  case h_1 serving =>
    rw [serving] at joined
    exact joined.elim
  case h_2 stopping =>
    rw [stopping] at joined
    exact joined.elim
  case h_3 joining =>
    rw [joining] at joined
    exact joined.elim
  case h_4 disconnecting =>
    apply OnlyOff.quiet
    · dsimp only
      split
      · trivial
      · trivial
    · rfl
    · rfl
    · rw [disconnecting]
      dsimp only
      split
      · exact Nat.zero_le _
      · exact le_rfl
  case h_5 attempts switching =>
    split
    case isTrue more => exact OnlyOff.switchOff switching more
    case isFalse => exact OnlyOff.quiet trivial rfl rfl (Nat.zero_le _)
  case h_6 => exact OnlyOff.quiet joined rfl rfl le_rfl

theorem OnlyOff.step (sound : program.Sound) (joined : program.main.Joined)
    (move : Move) : OnlyOff program (program.step setup move) := by
  cases move with
  | main => exact OnlyOff.mainStep joined
  | loop =>
      have still := @loopStep_of_exited _ _ _ setup _ (sound.exited joined)
      show OnlyOff program (program.loopStep setup)
      rw [still]
      exact OnlyOff.quiet joined rfl rfl le_rfl
  | request request =>
      show OnlyOff program (program.handle setup request)
      rw [handle_of_stopping joined.stopping]
      exact OnlyOff.quiet joined rfl rfl le_rfl

theorem OnlyOff.trans {middle after : Program Device Off}
    (first : OnlyOff program middle) (second : OnlyOff middle after) :
    OnlyOff program after := by
  rcases first with ⟨-, loop, offs, history, spent, all⟩
  rcases second with ⟨joined, loop', offs', history', spent', all'⟩
  refine ⟨joined, loop'.trans loop, offs' ++ offs, ?_, ?_, ?_⟩
  · rw [history', history, List.append_assoc]
  · rw [List.length_append]
    omega
  · rw [loop] at all'
    exact List.forall_mem_append.mpr ⟨all', all⟩

theorem OnlyOff.run (sound : program.Sound) (joined : program.main.Joined)
    (moves : List Move) : OnlyOff program (program.run setup moves) := by
  induction moves generalizing program with
  | nil => exact OnlyOff.quiet joined rfl rfl le_rfl
  | cons move moves ih =>
      have first := @OnlyOff.step _ _ _ setup _ sound joined move
      exact first.trans (ih (sound.step move) first.joined)

end

/-- The attempts that `main` makes are those of `shutdownAttempts`. -/
def Attempting (setup : Setup σ Device Off) (off : Off)
    (program : Program Device Off) : Prop :=
  match program.main with
  | .switchingOff attempts =>
      setup.demoMode = false ∧
        shutdownAttempts setup.shutdownClient (shutdownMaxAttempts - attempts)
            (fun attempt => setup.links (attempts + attempt)) program.off =
          shutdownAttempts setup.shutdownClient shutdownMaxAttempts
            setup.links off
  | .finished written =>
      written = (!setup.demoMode &&
        offWritten setup.shutdownClient setup.links off)
  | _ => program.off = off

section

variable {setup : Setup σ Device Off} {off : Off}
  {program : Program Device Off}

theorem Attempting.switching (attempting : Attempting setup off program)
    {attempts : Nat} (switching : program.main = .switchingOff attempts) :
    setup.demoMode = false ∧
      shutdownAttempts setup.shutdownClient (shutdownMaxAttempts - attempts)
          (fun attempt => setup.links (attempts + attempt)) program.off =
        shutdownAttempts setup.shutdownClient shutdownMaxAttempts
          setup.links off := by
  unfold Attempting at attempting
  rw [switching] at attempting
  exact attempting

theorem Attempting.finished (attempting : Attempting setup off program)
    {written : Bool} (finished : program.main = .finished written) :
    written = (!setup.demoMode &&
      offWritten setup.shutdownClient setup.links off) := by
  unfold Attempting at attempting
  rw [finished] at attempting
  exact attempting

theorem Attempting.switchOff {attempts : Nat}
    (attempting : Attempting setup off program)
    (switching : program.main = .switchingOff attempts)
    (more : attempts < shutdownMaxAttempts) :
    Attempting setup off (program.switchOff setup attempts) := by
  rcases Nat.exists_eq_add_of_lt more with ⟨left, count⟩
  have now : shutdownMaxAttempts - attempts = left + 1 := by
    omega
  have later : shutdownMaxAttempts - (attempts + 1) = left := by
    omega
  rcases attempting.switching switching with ⟨real, same⟩
  rw [now, shutdownAttempts, Nat.add_zero] at same
  unfold Attempting Program.switchOff
  dsimp only
  generalize shutdownAttempt (setup.shutdownClient (setup.links attempts))
    program.off = attempt at same ⊢
  rcases attempt with ⟨_ | _, after⟩
  · refine ⟨real, ?_⟩
    rw [later, ← same]
    dsimp only
    congr 1
    funext attempt
    rw [Nat.add_right_comm]
    rfl
  · show true = (!setup.demoMode && offWritten setup.shutdownClient
      setup.links off)
    rw [real, offWritten, ← same]
    rfl

theorem Attempting.mainStep (attempting : Attempting setup off program) :
    Attempting setup off (program.mainStep setup) := by
  unfold Program.mainStep
  split
  case h_1 serving =>
    unfold Attempting at attempting
    rw [serving] at attempting
    exact attempting
  case h_2 stopping =>
    unfold Attempting at attempting
    rw [stopping] at attempting
    exact attempting
  case h_3 joining =>
    split
    case isTrue =>
      unfold Attempting at attempting
      rw [joining] at attempting
      exact attempting
    case isFalse => exact attempting
  case h_4 disconnecting =>
    unfold Attempting at attempting
    rw [disconnecting] at attempting
    dsimp only at attempting
    cases demo : setup.demoMode with
    | true =>
        show false = (!setup.demoMode && _)
        rw [demo]
        rfl
    | false =>
        refine ⟨demo, ?_⟩
        dsimp only
        rw [attempting]
        congr 1
        funext attempt
        rw [Nat.zero_add]
  case h_5 attempts switching =>
    split
    case isTrue more => exact attempting.switchOff switching more
    case isFalse done =>
      rcases attempting.switching switching with ⟨real, same⟩
      rw [Nat.sub_eq_zero_of_le (Nat.le_of_not_lt done)] at same
      show false = (!setup.demoMode && offWritten setup.shutdownClient
        setup.links off)
      rw [real, offWritten, ← same]
      rfl
  case h_6 => exact attempting

theorem Attempting.step (attempting : Attempting setup off program)
    (move : Move) : Attempting setup off (program.step setup move) := by
  cases move with
  | main => exact attempting.mainStep
  | loop =>
      have leaves := @loopStep_leavesMain _ _ _ setup program
      show Attempting setup off (program.loopStep setup)
      unfold Attempting at attempting ⊢
      rw [leaves.main, leaves.off]
      exact attempting
  | request request =>
      show Attempting setup off (program.handle setup request)
      unfold Program.handle
      split
      · exact attempting
      · exact attempting

theorem Attempting.run (attempting : Attempting setup off program)
    (moves : List Move) :
    Attempting setup off (program.run setup moves) := by
  induction moves generalizing program with
  | nil => exact attempting
  | cons move moves ih => exact ih (attempting.step move)

end

end Program

end Windmi.Web
