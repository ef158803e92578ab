import Windmi.Core.WakeUp

/-!
# No lost wake-up

While the loop tests its predicate it holds the mutex, so that no kick can
return, and from the moment it waits every kick wakes it before it returns.
So a sleeping loop has seen everything whose kick has returned.
-/

namespace Windmi.Core

open Windmi.Library Windmi.Library.Spsc

namespace WakeUp

/-! ## What the threads know -/

/-- In the part of `kick` which the mutex protects. -/
def WebThread.Locked : WebThread → Prop
  | .kicking _ .counting => True
  | .kicking _ .notifying => True
  | .kicking _ .unlocking => True
  | _ => False

def LoopThread.Locked : LoopThread → Prop
  | .sampling => True
  | .testingStop _ _ => True
  | .testingGeneration _ _ => True
  | .testingQueue _ _ _ => True
  | .releasing _ => True
  | .unlocking => True
  | _ => False

/-- The kick of `stop` comes after its request. -/
def WebThread.Knows (state : State) : WebThread → Prop
  | .clearingRunning => state.stopRequested = true
  | .kicking true _ => state.stopRequested = true
  | _ => True

/-- All commands whose kick returned are popped, and `stop` kicked nobody. -/
def State.Quiet (state : State) : Prop :=
  state.kicked ≤ state.channel.popped.length ∧ state.stopKicked = false

/--
What the tests of the predicate have excluded so far.  No kick can return
before the mutex is released, and none can afterwards without waking the loop.
-/
def LoopThread.Knows (state : State) : LoopThread → Prop
  | .testingGeneration _ _ => state.stopKicked = false
  | .testingQueue _ _ call =>
      (call.seen state.channel = [] →
        state.kicked ≤ state.channel.popped.length) ∧
          state.stopKicked = false
  | .releasing _ => state.Quiet
  | .waiting _ =>
      state.Quiet ∧ ∀ byStop, state.web ≠ .kicking byStop .unlocking
  | _ => True

theorem WebThread.Knows.frame {state after : State} {web : WebThread}
    (knows : web.Knows state)
    (requested : state.stopRequested = true → after.stopRequested = true) :
    web.Knows after := by
  cases web with
  | clearingRunning => exact requested knows
  | kicking byStop kick =>
      cases byStop with
      | true => exact requested knows
      | false => trivial
  | _ => trivial

structure Invariant (state : State) : Prop where
  webLocked : state.web.Locked → state.kickMutex = some .web
  loopLocked : state.loop.Locked → state.kickMutex = some .loop
  kicked_le : state.kicked ≤ state.channel.accepted.length
  stopKicked : state.stopKicked = true → state.stopRequested = true
  webKnows : state.web.Knows state
  loopKnows : state.loop.Knows state

/-- Whoever finds nothing waiting finds no kick unanswered. -/
theorem kicked_le_of_waiting {state : State}
    (kicked : state.kicked ≤ state.channel.accepted.length)
    (none : state.channel.waiting = []) :
    state.kicked ≤ state.channel.popped.length :=
  kicked.trans (List.drop_eq_nil_iff.mp none)

theorem LoopThread.Knows.frame {state after : State} {loop : LoopThread}
    (knows : loop.Knows state) (kicked : after.kicked = state.kicked)
    (stopKicked : after.stopKicked = state.stopKicked)
    (popped : after.channel.popped = state.channel.popped)
    (accepted : after.kicked ≤ after.channel.accepted.length)
    (web : ∀ byStop, after.web ≠ .kicking byStop .unlocking) :
    loop.Knows after := by
  have quiet (before : state.Quiet) : after.Quiet := by
    rw [State.Quiet, kicked, popped, stopKicked]
    exact before
  cases loop with
  | testingGeneration observed final => exact stopKicked.trans knows
  | testingQueue observed final call =>
      refine ⟨?_, stopKicked.trans knows.2⟩
      cases call with
      | start headFirst => exact kicked_le_of_waiting accepted
      | loadedHead head => exact kicked_le_of_waiting accepted
      | loadedTail tail waiting =>
          rw [kicked, popped]
          exact knows.1
  | releasing observed => exact quiet knows
  | waiting observed => exact ⟨quiet knows.1, web⟩
  | _ => trivial

/-- The loop knows nothing while it neither holds the mutex nor waits. -/
theorem LoopThread.knows_of_away {state : State} {loop : LoopThread}
    (outside : ¬ loop.Locked) (awake : ∀ observed, loop ≠ .waiting observed) :
    loop.Knows state := by
  cases loop with
  | testingGeneration observed final => exact absurd trivial outside
  | testingQueue observed final call => exact absurd trivial outside
  | releasing observed => exact absurd trivial outside
  | waiting observed => exact absurd rfl (awake observed)
  | _ => trivial

theorem notified_ne_waiting (loop : LoopThread) (observed : Nat) :
    loop.notified ≠ .waiting observed := by
  cases loop <;> simp [LoopThread.notified]

theorem locked_of_notified {loop : LoopThread}
    (locked : loop.notified.Locked) : loop.Locked := by
  cases loop <;> exact locked

namespace Invariant

variable {state : State}

/-- The mutex excludes the loop while the web server holds it. -/
theorem loop_outside (invariant : Invariant state)
    (locked : state.web.Locked) : ¬ state.loop.Locked := by
  intro inside
  have held := invariant.loopLocked inside
  rw [invariant.webLocked locked] at held
  cases held

theorem create : Invariant State.create where
  webLocked := False.elim
  loopLocked := False.elim
  kicked_le := Nat.le_refl 0
  stopKicked := by rintro ⟨⟩
  webKnows := trivial
  loopKnows := trivial

theorem begin (invariant : Invariant state) {call : WebThread}
    (fresh : ¬ call.Locked) (knows : ∀ state, call.Knows state)
    (released : ∀ byStop, call ≠ .kicking byStop .unlocking) :
    Invariant (state.begin call) := by
  rw [State.begin]
  split
  case h_1 idle =>
    exact {
      webLocked := fun locked => absurd locked fresh
      loopLocked := invariant.loopLocked
      kicked_le := invariant.kicked_le
      stopKicked := invariant.stopKicked
      webKnows := knows _
      loopKnows := invariant.loopKnows.frame rfl rfl rfl
        invariant.kicked_le released }
  case h_2 => exact invariant

theorem pushStep (invariant : Invariant state) (call : Push Command) :
    Invariant (state.pushStep call) := by
  have produced : state.channel.Produced (call.step state.channel).1 :=
    call.step_produced
  have kicked : state.kicked ≤ (call.step state.channel).1.accepted.length :=
    invariant.kicked_le.trans produced.accepted.length_le
  have web (byStop : Bool) :
      (state.pushStep call).web ≠ .kicking byStop .unlocking := by
    rw [State.pushStep]
    split <;> simp
  refine ⟨?_, invariant.loopLocked, kicked, invariant.stopKicked, ?_,
    invariant.loopKnows.frame rfl rfl produced.popped_eq kicked web⟩
  · intro locked
    rw [State.pushStep] at locked
    split at locked <;> exact locked.elim
  · rw [State.pushStep]
    split <;> trivial

/-- A step of the web server which moves it on, before a kick returns. -/
theorem moveWeb (invariant : Invariant state) {web : WebThread}
    {kickMutex : Option Party} {kickGeneration : Nat}
    {stopRequested running : Bool}
    (held : web.Locked → kickMutex = some .web)
    (others : state.loop.Locked → kickMutex = some .loop)
    (requested : state.stopRequested = true → stopRequested = true)
    (knows : web.Knows
      { state with
        web := web
        kickMutex := kickMutex
        kickGeneration := kickGeneration
        stopRequested := stopRequested
        running := running })
    (released : ∀ byStop, web ≠ .kicking byStop .unlocking) :
    Invariant
      { state with
        web := web
        kickMutex := kickMutex
        kickGeneration := kickGeneration
        stopRequested := stopRequested
        running := running } where
  webLocked := held
  loopLocked := others
  kicked_le := invariant.kicked_le
  stopKicked := fun kicked => requested (invariant.stopKicked kicked)
  webKnows := knows
  loopKnows := invariant.loopKnows.frame rfl rfl rfl invariant.kicked_le
    released

/-- While the web server is about to let go of the mutex the loop is away. -/
theorem loop_away (invariant : Invariant state) {byStop : Bool}
    (unlocking : state.web = .kicking byStop .unlocking) :
    ¬ state.loop.Locked ∧ ∀ observed, state.loop ≠ .waiting observed := by
  constructor
  · apply invariant.loop_outside
    rw [unlocking]
    trivial
  · intro observed waiting
    have knows := invariant.loopKnows
    rw [waiting] at knows
    exact knows.2 byStop unlocking

/-- A notified loop does not wait, so that the kick can return. -/
theorem notify (invariant : Invariant state) {byStop : Bool}
    (notifying : state.web = .kicking byStop .notifying) :
    Invariant (state.kickStep byStop .notifying) := by
  have knows := invariant.webKnows
  have locked : state.web.Locked := by
    rw [notifying]
    trivial
  have away : ¬ state.loop.notified.Locked := fun inside =>
    invariant.loop_outside locked (locked_of_notified inside)
  rw [notifying] at knows
  exact {
    webLocked := fun _ => invariant.webLocked locked
    loopLocked := fun inside => absurd inside away
    kicked_le := invariant.kicked_le
    stopKicked := invariant.stopKicked
    webKnows := by cases byStop <;> exact knows
    loopKnows := LoopThread.knows_of_away away
      (notified_ne_waiting state.loop) }

/-- A kick returns. -/
theorem unlock (invariant : Invariant state) {byStop : Bool}
    (unlocking : state.web = .kicking byStop .unlocking) :
    Invariant (state.kickStep byStop .unlocking) := by
  have knows := invariant.webKnows
  rw [unlocking] at knows
  rcases invariant.loop_away unlocking with ⟨outside, awake⟩
  cases byStop with
  | false =>
      exact {
        webLocked := False.elim
        loopLocked := fun inside => absurd inside outside
        kicked_le := Nat.le_refl _
        stopKicked := invariant.stopKicked
        webKnows := trivial
        loopKnows := LoopThread.knows_of_away outside awake }
  | true =>
      exact {
        webLocked := False.elim
        loopLocked := fun inside => absurd inside outside
        kicked_le := invariant.kicked_le
        stopKicked := fun _ => knows
        webKnows := trivial
        loopKnows := LoopThread.knows_of_away outside awake }

theorem kickStep (invariant : Invariant state) {byStop : Bool} {kick : Kick}
    (kicking : state.web = .kicking byStop kick) :
    Invariant (state.kickStep byStop kick) := by
  have knows := invariant.webKnows
  rw [kicking] at knows
  cases kick with
  | locking =>
      rw [State.kickStep]
      split
      case isTrue free =>
        apply invariant.moveWeb (fun _ => rfl) _ id
          (by cases byStop <;> exact knows) (by simp)
        intro inside
        have held := invariant.loopLocked inside
        rw [free] at held
        cases held
      case isFalse => exact invariant
  | counting =>
      have locked : state.web.Locked := by
        rw [kicking]
        trivial
      exact invariant.moveWeb (fun _ => invariant.webLocked locked)
        invariant.loopLocked id (by cases byStop <;> exact knows) (by simp)
  | notifying => exact invariant.notify kicking
  | unlocking => exact invariant.unlock kicking

theorem webStep (invariant : Invariant state) : Invariant state.webStep := by
  have others := invariant.loopLocked
  rw [State.webStep]
  split
  case h_1 => exact invariant
  case h_2 call pushing => exact invariant.pushStep call
  case h_3 byStop kick kicking => exact invariant.kickStep kicking
  case h_4 stopping =>
    cases state.running
    · exact invariant.moveWeb False.elim others id trivial (by simp)
    · exact invariant.moveWeb False.elim others id trivial (by simp)
  case h_5 requesting =>
    exact invariant.moveWeb False.elim others (fun _ => rfl) rfl (by simp)
  case h_6 clearing =>
    have knows := invariant.webKnows
    rw [clearing] at knows
    exact invariant.moveWeb False.elim others id knows (by simp)
  case h_7 joining =>
    split
    · exact invariant.moveWeb False.elim others id trivial (by simp)
    · exact invariant.moveWeb False.elim others id trivial (by simp)

theorem drainStep (invariant : Invariant state) (call : Pop Command) :
    Invariant (state.drainStep call) := by
  have consumed : state.channel.Consumed (call.step state.channel).1 :=
    Consumption.step_consumed (.popping call)
  have away : ¬ (state.drainStep call).loop.Locked := by
    rw [State.drainStep]
    split <;> exact id
  refine ⟨invariant.webLocked, fun locked => absurd locked away, ?_,
    invariant.stopKicked, invariant.webKnows.frame id,
    LoopThread.knows_of_away away ?_⟩
  · rw [State.drainStep, consumed.accepted_eq]
    exact invariant.kicked_le
  · intro observed
    rw [State.drainStep]
    split <;> simp

/-- A step of the loop which moves it on and may use the mutex. -/
theorem moveLoop (invariant : Invariant state) {loop : LoopThread}
    {kickMutex : Option Party} {running : Bool}
    (web : state.web.Locked → kickMutex = some .web)
    (held : loop.Locked → kickMutex = some .loop)
    (knows : loop.Knows
      { state with
        loop := loop
        kickMutex := kickMutex
        running := running }) :
    Invariant
      { state with
        loop := loop
        kickMutex := kickMutex
        running := running } where
  webLocked := web
  loopLocked := held
  kicked_le := invariant.kicked_le
  stopKicked := invariant.stopKicked
  webKnows := invariant.webKnows.frame id
  loopKnows := knows

/-- What the test of the queue has loaded is what the loop knows about. -/
theorem queueStep (invariant : Invariant state) {observed : Nat}
    {final : Bool} {call : Test Command} (sound : state.threads.Sound)
    (testing : state.loop = .testingQueue observed final call) :
    Invariant (state.queueStep observed final call) := by
  have fits : call.Fits state.channel := by
    refine sound.consumer (.testing call) ?_
    rw [State.threads, testing]
    rfl
  have knows := invariant.loopKnows
  rw [testing] at knows
  have held : state.kickMutex = some .loop := by
    apply invariant.loopLocked
    rw [testing]
    trivial
  apply invariant.moveLoop invariant.webLocked (fun _ => held)
  cases next : call.step state.channel with
  | inl next' =>
      refine ⟨?_, knows.2⟩
      cases call with
      | start headFirst => cases headFirst <;> cases next <;> exact knows.1
      | loadedHead head => cases next
      | loadedTail tail waiting => cases next
  | inr empty =>
      cases empty with
      | false => trivial
      | true =>
          have none := fits.found_empty sound.channel next
          cases final with
          | true => trivial
          | false => exact ⟨knows.1 none, knows.2⟩

/-- The loop takes a mutex that nobody holds. -/
theorem takeMutex (invariant : Invariant state)
    (free : state.kickMutex = none) {loop : LoopThread}
    (knows : loop.Knows
      { state with
        kickMutex := some .loop
        loop := loop }) :
    Invariant
      { state with
        kickMutex := some .loop
        loop := loop } := by
  refine invariant.moveLoop ?_ (fun _ => rfl) knows
  intro inside
  have taken := invariant.webLocked inside
  rw [free] at taken
  cases taken

/-- The loop lets go of the mutex, which excluded the web server so far. -/
theorem releaseMutex (invariant : Invariant state)
    (locked : state.loop.Locked) {loop : LoopThread}
    (outside : ¬ loop.Locked)
    (knows : (∀ byStop, state.web ≠ .kicking byStop .unlocking) →
      loop.Knows
        { state with
          kickMutex := none
          loop := loop }) :
    Invariant
      { state with
        kickMutex := none
        loop := loop } := by
  have web : ¬ state.web.Locked := fun inside =>
    invariant.loop_outside inside locked
  refine invariant.moveLoop (fun inside => absurd inside web)
    (fun inside => absurd inside outside) (knows ?_)
  intro byStop unlocking
  apply web
  rw [unlocking]
  trivial

theorem loopStep (invariant : Invariant state) (sound : state.threads.Sound)
    (chance : Bool) : Invariant (state.loopStep chance) := by
  have web := invariant.webLocked
  have held := invariant.loopLocked
  have knows := invariant.loopKnows
  cases loop : state.loop with
  | draining call =>
      simp only [State.loopStep, loop]
      exact invariant.drainStep call
  | testingQueue observed final call =>
      simp only [State.loopStep, loop]
      exact invariant.queueStep sound loop
  | waiting observed =>
      simp only [State.loopStep, loop]
      exact invariant
  | finished =>
      simp only [State.loopStep, loop]
      exact invariant
  | checking =>
      simp only [State.loopStep, loop]
      split <;> exact invariant.moveLoop web False.elim trivial
  | reading =>
      simp only [State.loopStep, loop]
      split <;> exact invariant.moveLoop web False.elim trivial
  | finishing =>
      simp only [State.loopStep, loop]
      exact invariant.moveLoop web False.elim trivial
  | locking =>
      simp only [State.loopStep, loop]
      split
      case isTrue free => exact invariant.takeMutex free trivial
      case isFalse => exact invariant
  | woken observed timedOut =>
      simp only [State.loopStep, loop]
      split
      case isTrue free => exact invariant.takeMutex free trivial
      case isFalse => exact invariant
  | sampling =>
      rw [loop] at held
      simp only [State.loopStep, loop]
      exact invariant.moveLoop web held trivial
  | testingStop observed final =>
      rw [loop] at held
      simp only [State.loopStep, loop]
      split
      case isTrue requested => exact invariant.moveLoop web held trivial
      case isFalse unrequested =>
        refine invariant.moveLoop web held ?_
        rw [LoopThread.Knows, Bool.eq_false_iff]
        exact fun kicked => unrequested (invariant.stopKicked kicked)
  | testingGeneration observed final =>
      rw [loop] at held knows
      simp only [State.loopStep, loop]
      split
      case isTrue changed => exact invariant.moveLoop web held trivial
      case isFalse same =>
        exact invariant.moveLoop web held
          ⟨kicked_le_of_waiting invariant.kicked_le, knows⟩
  | releasing observed =>
      have locked : state.loop.Locked := by
        rw [loop]
        trivial
      rw [loop] at knows
      simp only [State.loopStep, loop]
      exact invariant.releaseMutex locked id fun away => ⟨knows, away⟩
  | unlocking =>
      have locked : state.loop.Locked := by
        rw [loop]
        trivial
      simp only [State.loopStep, loop]
      exact invariant.releaseMutex locked id fun _ => trivial

theorem wake (invariant : Invariant state) (timedOut : Bool) :
    Invariant (state.wake timedOut) := by
  rw [State.wake]
  split
  case h_1 => exact invariant.moveLoop invariant.webLocked False.elim trivial
  case h_2 => exact invariant

theorem step (invariant : Invariant state) (sound : state.threads.Sound)
    (move : Move) : Invariant (state.step move) := by
  cases move with
  | request cmd => exact invariant.begin id (fun _ => trivial) (by simp)
  | stop => exact invariant.begin id (fun _ => trivial) (by simp)
  | web => exact invariant.webStep
  | loop chance => exact invariant.loopStep sound chance
  | wake timedOut => exact invariant.wake timedOut

end Invariant

/-! ## Runs -/

theorem foldl_sound {state : State} (invariant : Invariant state)
    (sound : state.threads.Sound) (moves : List Move) :
    Invariant (moves.foldl State.step state) ∧
      (moves.foldl State.step state).threads.Sound := by
  induction moves generalizing state with
  | nil => exact ⟨invariant, sound⟩
  | cons move moves ih =>
      exact ih (invariant.step sound move)
        ((state.step_reaches move).sound sound)

theorem run_sound (moves : List Move) :
    Invariant (run moves) ∧ (run moves).threads.Sound :=
  foldl_sound Invariant.create QueueThreads.create_sound moves

/-- The loop is blocked in the wait between two polls. -/
def State.Asleep (state : State) : Prop :=
  ∃ observed, state.loop = .waiting observed

/-- The queue holds a command whose kick has returned. -/
def State.HoldsKicked (state : State) : Prop :=
  ∃ position, state.channel.popped.length ≤ position ∧
    position < state.channel.accepted.length ∧ position < state.kicked

/-- No interleaving lets the loop sleep through a kick. -/
theorem no_lost_wake_up (moves : List Move) :
    ¬ ((run moves).Asleep ∧
      ((run moves).HoldsKicked ∨ (run moves).stopKicked = true)) := by
  rintro ⟨⟨observed, waiting⟩, missed⟩
  have knows := (run_sound moves).1.loopKnows
  rw [waiting] at knows
  rcases knows with ⟨⟨kicked, unstopped⟩, -⟩
  rcases missed with ⟨position, unpopped, -, returned⟩ | stopped
  · omega
  · rw [unstopped] at stopped
    cases stopped

/-- Without requests the loop does come to rest. -/
example : (run (List.replicate 13 (.loop true))).Asleep :=
  ⟨0, rfl⟩

end WakeUp

end Windmi.Core
