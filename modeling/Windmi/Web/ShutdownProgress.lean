import Windmi.Library.Runs
import Windmi.Web.Lifecycle

/-!
# A shutdown comes to its end

After a signal `main` serves no more requests, so that the queue only gets
shorter; the loop leaves a reconnection, drains the queue, finishes the pass and
returns, and `main` makes its attempts.  The calls of the clients return, as
each of their waits has a timeout.
-/

namespace Windmi.Web

open Windmi.Core
open Windmi.Library
open Windmi.Modbus

/-! ## What is still to do -/

/-- The steps of `main` until it asks the loop to stop. -/
def MainPhase.untilStop : MainPhase → Nat
  | .serving => 2
  | .stopping => 1
  | _ => 0

/-- The steps of `main` until its end, once the loop has returned. -/
def MainPhase.untilFinished : MainPhase → Nat
  | .switchingOff attempts => shutdownMaxAttempts - attempts + 1
  | .disconnecting => shutdownMaxAttempts + 2
  | .finished _ => 0
  | _ => shutdownMaxAttempts + 3

namespace Program

variable {σ Device Off : Type}

/-- The steps which the loop still takes once it is asked to stop. -/
def stepsToExit (program : Program Device Off) : Nat :=
  match program.loop with
  | .starting => 2
  | .head => 1
  | .reconnecting _ => program.server.queued.length + 3
  | .draining => program.server.queued.length + 2
  | .exited => 0

section

variable {setup : Setup σ Device Off} {program : Program Device Off}

/-- Only the steps of `main` change where it stands. -/
theorem phase_falls (measure : MainPhase → Nat)
    (now : measure (program.mainStep setup).main ≤
      measure program.main - 1) (move : Move) :
    measure (program.step setup move).main ≤
      measure program.main - (if move = .main then 1 else 0) := by
  cases move with
  | main => exact now
  | loop =>
      have leaves := @loopStep_leavesMain _ _ _ setup program
      show measure (program.loopStep setup).main ≤ _
      rw [leaves.main]
      exact Nat.le_refl _
  | request request =>
      show measure (program.handle setup request).main ≤ _
      rw [handle_main]
      exact Nat.le_refl _

theorem untilStop_mainStep :
    (program.mainStep setup).main.untilStop ≤
      program.main.untilStop - 1 := by
  unfold Program.mainStep
  split
  case h_1 serving =>
    rw [serving]
    exact Nat.le_refl 1
  case h_2 => exact Nat.zero_le _
  case h_3 joining =>
    split
    · exact Nat.zero_le _
    · rw [joining]
      exact Nat.zero_le _
  case h_4 =>
    dsimp only
    split
    · exact Nat.zero_le _
    · exact Nat.zero_le _
  case h_5 =>
    split
    · unfold Program.switchOff
      dsimp only
      split
      · exact Nat.zero_le _
      · exact Nat.zero_le _
    · exact Nat.zero_le _
  case h_6 written finished =>
    rw [finished]
    exact Nat.zero_le _

theorem untilFinished_mainStep (stopping : program.main.Stopping)
    (exited : program.loop = .exited) :
    (program.mainStep setup).main.untilFinished ≤
      program.main.untilFinished - 1 := by
  unfold Program.mainStep
  split
  case h_1 serving =>
    rw [serving] at stopping
    exact stopping.elim
  case h_2 early =>
    rw [early] at stopping
    exact stopping.elim
  case h_3 joining =>
    rw [if_pos exited, joining]
    exact Nat.le_refl _
  case h_4 disconnecting =>
    rw [disconnecting]
    dsimp only
    split
    · exact Nat.zero_le _
    · exact Nat.le_refl _
  case h_5 attempts switching =>
    rw [switching]
    split
    case isTrue more =>
      unfold Program.switchOff
      dsimp only
      split
      · exact Nat.zero_le _
      · exact Nat.sub_lt_sub_left more (Nat.lt_succ_self attempts)
    case isFalse => exact Nat.zero_le _
  case h_6 written finished =>
    rw [finished]
    exact Nat.zero_le _

theorem stopping_iff (phase : MainPhase) :
    phase.Stopping ↔ phase.untilStop = 0 := by
  cases phase with
  | serving => exact iff_of_false id nofun
  | stopping => exact iff_of_false id nofun
  | joining => exact iff_of_true trivial rfl
  | disconnecting => exact iff_of_true trivial rfl
  | switchingOff attempts => exact iff_of_true trivial rfl
  | finished written => exact iff_of_true trivial rfl

theorem stopping_step (stopping : program.main.Stopping) (move : Move) :
    (program.step setup move).main.Stopping := by
  have falls := phase_falls MainPhase.untilStop
    (@untilStop_mainStep _ _ _ setup program) move
  rw [(stopping_iff _).mp stopping, Nat.zero_sub] at falls
  exact (stopping_iff _).mpr (Nat.le_zero.mp falls)

theorem queued_length_le (server : WebServer) :
    server.queued.length ≤ 15 := by
  rcases server with ⟨down, _ | queue⟩
  · exact Nat.zero_le _
  · have fits := queue.used_lt
    rw [← queue.length_contents] at fits
    exact Nat.le_of_lt_succ fits

theorem queued_popCommand {server : WebServer} {cmd : Command}
    (popped : server.popCommand.1 = some cmd) :
    server.popCommand.2.queued.length + 1 = server.queued.length := by
  have split := server.popCommand_queued
  rw [popped] at split
  rw [← split]
  rfl

/-- Asked to stop, the loop finishes at most the pass that is under way. -/
theorem stepsToExit_loopStep (asked : program.stopRequested = true) :
    (program.loopStep setup).stepsToExit ≤ program.stepsToExit - 1 := by
  unfold Program.loopStep
  split
  case h_1 starting =>
    have before : program.stepsToExit = 2 := by
      rw [stepsToExit, starting]
    rw [before]
    exact Nat.le_refl 1
  case h_2 head =>
    rw [if_pos asked]
    exact Nat.zero_le _
  case h_3 retries reconnecting =>
    have before : program.stepsToExit =
        program.server.queued.length + 3 := by
      rw [stepsToExit, reconnecting]
    rw [before, Program.reconnectStep, if_pos (Or.inl asked)]
    unfold stepsToExit
    dsimp only
    split_ifs
    · exact Nat.le_add_left 1 _
    · exact Nat.le_refl _
  case h_4 draining =>
    have before : program.stepsToExit =
        program.server.queued.length + 2 := by
      rw [stepsToExit, draining]
    rw [before, Program.drainStep]
    split
    case h_1 cmd server popped =>
      have shorter := @queued_popCommand program.server cmd
        (congrArg Prod.fst popped)
      rw [popped] at shorter
      have after : ({ program with
          server := server
          batch := program.batch ++ [cmd] } :
            Program Device Off).stepsToExit = server.queued.length + 2 := by
        rw [stepsToExit, draining]
      rw [after, ← shorter]
      exact Nat.le_refl _
    case h_2 => exact Nat.le_add_left 1 _
  case h_5 exited =>
    rw [stepsToExit, exited]
    exact Nat.zero_le _

/-- A step of `main` after the request to stop leaves the loop alone. -/
theorem stepsToExit_mainStep (stopping : program.main.Stopping) :
    (program.mainStep setup).stepsToExit = program.stepsToExit := by
  unfold Program.mainStep
  split
  case h_1 serving => exact absurd serving stopping.ne_serving
  case h_2 => rfl
  case h_3 =>
    split
    · rfl
    · rfl
  case h_4 => rfl
  case h_5 =>
    split
    · rfl
    · rfl
  case h_6 => rfl

theorem stepsToExit_falls (stopping : program.main.Stopping)
    (sound : program.Sound) (move : Move) :
    (program.step setup move).stepsToExit ≤
      program.stepsToExit - (if move = .loop then 1 else 0) := by
  cases move with
  | loop => exact stepsToExit_loopStep (sound.stopped stopping)
  | main => exact (stepsToExit_mainStep stopping).le
  | request request =>
      show (program.handle setup request).stepsToExit ≤ _
      rw [handle_of_stopping stopping]
      exact Nat.le_refl _

theorem exited_iff (program : Program Device Off) :
    program.loop = .exited ↔ program.stepsToExit = 0 := by
  unfold stepsToExit
  cases program.loop with
  | starting => exact iff_of_false nofun nofun
  | head => exact iff_of_false nofun nofun
  | reconnecting retries => exact iff_of_false nofun nofun
  | draining => exact iff_of_false nofun nofun
  | exited => exact iff_of_true rfl rfl

theorem stepsToExit_le (program : Program Device Off) :
    program.stepsToExit ≤ 18 := by
  have few : program.server.queued.length ≤ 15 :=
    queued_length_le program.server
  unfold stepsToExit
  split
  · decide
  · decide
  · exact Nat.add_le_add_right few 3
  · exact (Nat.add_le_add_right few 2).trans (by decide)
  · decide

theorem untilFinished_le (phase : MainPhase) : phase.untilFinished ≤ 6 := by
  unfold MainPhase.untilFinished
  split
  · exact Nat.succ_le_succ (Nat.sub_le _ _) |>.trans (by decide)
  · decide
  · decide
  · decide

theorem finished_of_untilFinished {phase : MainPhase}
    (none : phase.untilFinished = 0) :
    ∃ written, phase = .finished written := by
  cases phase with
  | finished written => exact ⟨written, rfl⟩
  | serving => cases none
  | stopping => cases none
  | joining => cases none
  | disconnecting => cases none
  | switchingOff attempts => cases none

theorem untilStop_le (phase : MainPhase) : phase.untilStop ≤ 2 := by
  unfold MainPhase.untilStop
  split
  · decide
  · decide
  · decide

/-! ### The three stages -/

/-- Two steps of `main` from the signal on ask the loop to stop. -/
theorem run_asks {moves : List Move} (asked : 2 ≤ moves.count .main) :
    (program.run setup moves).main.Stopping := by
  apply (stopping_iff _).mpr
  apply @measure_foldl_eq_zero _ _ _ (step setup) (fun _ => True)
    (fun program => program.main.untilStop) .main
  · exact fun _ _ _ => trivial
  · intro program move _
    exact phase_falls MainPhase.untilStop untilStop_mainStep move
  · trivial
  · exact (untilStop_le _).trans asked

/-- The loop is asked to stop, and `main` knows where it stands. -/
structure Ending (program : Program Device Off) : Prop where
  stopping : program.main.Stopping
  sound : program.Sound

theorem Ending.step (ending : program.Ending) (move : Move) :
    (program.step setup move).Ending :=
  ⟨stopping_step ending.stopping move, ending.sound.step move⟩

theorem Ending.run (ending : program.Ending) (moves : List Move) :
    (program.run setup moves).Ending := by
  induction moves generalizing program with
  | nil => exact ending
  | cons move moves ih => exact ih (ending.step move)

/-- Then the loop returns after eighteen more of its steps. -/
theorem Ending.run_exits (ending : program.Ending) {moves : List Move}
    (scheduled : 18 ≤ moves.count .loop) :
    (program.run setup moves).loop = .exited := by
  apply (exited_iff _).mpr
  apply @measure_foldl_eq_zero _ _ _ (Program.step setup) Ending stepsToExit
    .loop
  · exact fun _ move ending => ending.step move
  · intro program move ending
    exact stepsToExit_falls ending.stopping ending.sound move
  · exact ending
  · exact (stepsToExit_le _).trans scheduled

theorem Ending.exited_step (ending : program.Ending)
    (exited : program.loop = .exited) (move : Move) :
    (program.step setup move).loop = .exited := by
  have falls := @stepsToExit_falls _ _ _ setup program ending.stopping
    ending.sound move
  rw [(exited_iff program).mp exited, Nat.zero_sub] at falls
  exact (exited_iff _).mpr (Nat.le_zero.mp falls)

/-- And `main` finishes after six more of its own. -/
theorem Ending.run_finishes (ending : program.Ending)
    (exited : program.loop = .exited) {moves : List Move}
    (resumed : 6 ≤ moves.count .main) :
    ∃ written, (program.run setup moves).main = .finished written := by
  apply finished_of_untilFinished
  apply @measure_foldl_eq_zero _ _ _ (Program.step setup)
    (fun program => program.Ending ∧ program.loop = .exited)
    (fun program => program.main.untilFinished) .main
  · rintro program move ⟨ending, exited⟩
    exact ⟨ending.step move, ending.exited_step exited move⟩
  · rintro program move ⟨ending, exited⟩
    exact phase_falls MainPhase.untilFinished
      (untilFinished_mainStep ending.stopping exited) move
  · exact ⟨ending, exited⟩
  · exact (untilFinished_le _).trans resumed

end

/--
Once a signal has come `main` always finishes.  In any interleaving it takes two
of its own steps, then eighteen of the loop, however full the queue is and even
in the middle of a reconnection, and then six of its own.
-/
theorem shutdown_completes (setup : Setup σ Device Off) (loop : ControlLoop)
    (device : Device) (off : Off) {moves asks passes ends : List Move}
    (asked : 2 ≤ asks.count .main) (scheduled : 18 ≤ passes.count .loop)
    (resumed : 6 ≤ ends.count .main) :
    ∃ written,
      ((start loop device off).run setup
        (moves ++ asks ++ passes ++ ends)).main = .finished written := by
  have sound : ((start loop device off).run setup (moves ++ asks)).Sound :=
    (start_sound loop device off).run _
  have stopping :
      ((start loop device off).run setup (moves ++ asks)).main.Stopping := by
    unfold Program.run
    rw [List.foldl_append]
    exact run_asks asked
  have ending : ((start loop device off).run setup (moves ++ asks)).Ending :=
    ⟨stopping, sound⟩
  have exits := @Ending.run_exits _ _ _ setup _ ending _ scheduled
  have still := @Ending.run _ _ _ setup _ ending passes
  have finishes := @Ending.run_finishes _ _ _ setup _ still exits _ resumed
  unfold Program.run at finishes ⊢
  rw [List.foldl_append, List.foldl_append]
  exact finishes

/-- The loop has lost its device, which `main` reaches for the shutdown. -/
def lostSetup : Setup Unit RegisterFile RegisterFile where
  json := modeJson "\x7b\"mode\":1\x7d" 1
  client :=
    { registerFile with
      connect := fun registers => (false, registers)
      isConnected := fun _ => false }
  shutdownClient _ := registerFile
  links _ := .unavailable
  demoMode := false

/-- The signal comes during a reconnection, with two commands waiting that are
drained after it. -/
theorem shutdown_completes_reconnecting :
    let mode : Request := { api := .setMode, body := "\x7b\"mode\":1\x7d" }
    let moves : List Move := [.loop, .request mode, .loop, .request mode, .loop]
    let before : Program RegisterFile RegisterFile :=
      (start {} (fun _ => 0) (fun _ => 0)).run lostSetup moves
    (before.loop = .reconnecting 1 ∧ before.server.queued.length = 2) ∧
      ∃ written,
        ((start {} (fun _ => 0) (fun _ => 0)).run lostSetup
          (moves ++ [.main, .main] ++ List.replicate 18 .loop ++
            List.replicate 6 .main)).main = .finished written := by
  intro mode moves before
  exact ⟨by decide +kernel, shutdown_completes lostSetup {} (fun _ => 0)
    (fun _ => 0) (by decide) (by decide) (by decide)⟩

end Program

end Windmi.Web
