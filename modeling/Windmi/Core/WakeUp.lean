import Windmi.Core.CmdQueueThreads

/-!
# Waking the control loop

Between two polls the thread of `src/core/ControlLoop.cpp` sleeps on
`kick_cond_`.  The web server pushes a command and then calls `kick`; at the
end `stop` sets a flag, which no mutex protects, and calls `kick` as well.
Every access to something that both threads use is a step of its own.
-/

namespace Windmi.Core

open Windmi.Library Windmi.Library.Spsc

namespace WakeUp

/-! ## The two threads -/

inductive Party
  | web
  | loop
  deriving DecidableEq

/-- Where a call of `kick` stands. -/
inductive Kick
  | locking
  | counting
  | notifying
  | unlocking

/--
Where the web server stands: between two requests, in a push, in the kick
after it, or in `stop`, whose kick is marked.
-/
inductive WebThread
  | idle
  | pushing (call : Push Command)
  | kicking (byStop : Bool) (kick : Kick)
  | stopping
  | requestingStop
  | clearingRunning
  | joining

/--
Where the control loop stands.  The predicate of the wait is tested in the
order of the source; it is final after a timeout.
-/
inductive LoopThread
  | checking
  | draining (call : Pop Command)
  | reading
  | locking
  | sampling
  | testingStop (observed : Nat) (final : Bool)
  | testingGeneration (observed : Nat) (final : Bool)
  | testingQueue (observed : Nat) (final : Bool) (call : Test Command)
  | releasing (observed : Nat)
  | waiting (observed : Nat)
  | woken (observed : Nat) (timedOut : Bool)
  | unlocking
  | finishing
  | finished

/-- `notify_one` wakes the loop if it waits, and has no other effect. -/
def LoopThread.notified : LoopThread → LoopThread
  | .waiting observed => .woken observed false
  | elsewhere => elsewhere

/-- Also kept: how many commands had their kick return, and that of `stop`. -/
structure State where
  channel : Channel Command cmdQueueCapacity
  web : WebThread
  loop : LoopThread
  kickMutex : Option Party
  kickGeneration : Nat
  stopRequested : Bool
  running : Bool
  kicked : Nat
  stopKicked : Bool

namespace State

/-- The loop has been started. -/
def create : State where
  channel := Channel.create CmdQueue.create
  web := .idle
  loop := .checking
  kickMutex := none
  kickGeneration := 0
  stopRequested := false
  running := true
  kicked := 0
  stopKicked := false

/-! ## Steps of the web server -/

/-- A request pushes its command and, if the queue took it, kicks the loop. -/
def pushStep (call : Push Command) (state : State) : State :=
  { state with
    channel := (call.step state.channel).1
    web :=
      match (call.step state.channel).2 with
      | .inl next => .pushing next
      | .inr true => .kicking false .locking
      | .inr false => .idle }

def kickStep (byStop : Bool) (state : State) : Kick → State
  | .locking =>
      -- a thread stands still as long as the other one holds the mutex
      if state.kickMutex = none then
        { state with
          kickMutex := some .web
          web := .kicking byStop .counting }
      else
        state
  | .counting =>
      { state with
        kickGeneration := (state.kickGeneration + 1) % 2 ^ 64
        web := .kicking byStop .notifying }
  | .notifying =>
      { state with
        loop := state.loop.notified
        web := .kicking byStop .unlocking }
  | .unlocking =>
      match byStop with
      | false =>
          { state with
            kickMutex := none
            web := .idle
            kicked := state.channel.accepted.length }
      | true =>
          { state with
            kickMutex := none
            web := .joining
            stopKicked := true }

def webStep (state : State) : State :=
  match state.web with
  | .idle => state
  | .pushing call => state.pushStep call
  | .kicking byStop kick => state.kickStep byStop kick
  | .stopping =>
      { state with
        web := if state.running then .requestingStop else .idle }
  | .requestingStop =>
      { state with
        stopRequested := true
        web := .clearingRunning }
  | .clearingRunning =>
      { state with
        running := false
        web := .kicking true .locking }
  | .joining =>
      { state with
        web :=
          match state.loop with
          | .finished => .idle
          | _ => .joining }

/-! ## Steps of the control loop -/

/-- A command which was popped is processed before the next pop. -/
def drainStep (call : Pop Command) (state : State) : State :=
  { state with
    channel := (call.step state.channel).1
    loop :=
      match (call.step state.channel).2 with
      | .inl next => .draining next
      | .inr (some _) => .draining .start
      | .inr none => .reading }

/-- The predicate holds if the queue is not empty. -/
def queueStep (observed : Nat) (final : Bool) (call : Test Command)
    (state : State) : State :=
  { state with
    loop :=
      match call.step state.channel with
      | .inl next => .testingQueue observed final next
      | .inr true => if final then .unlocking else .releasing observed
      | .inr false => .unlocking }

/--
Chance decides whether a poll took so long that there is no wait, and which
index `empty` loads first.
-/
def loopStep (chance : Bool) (state : State) : State :=
  match state.loop with
  | .checking =>
      { state with
        loop :=
          if state.stopRequested then .finishing else .draining .start }
  | .draining call => state.drainStep call
  | .reading =>
      { state with loop := if chance then .locking else .checking }
  | .locking =>
      if state.kickMutex = none then
        { state with
          kickMutex := some .loop
          loop := .sampling }
      else
        state
  | .sampling =>
      { state with loop := .testingStop state.kickGeneration false }
  | .testingStop observed final =>
      { state with
        loop :=
          if state.stopRequested then .unlocking
          else .testingGeneration observed final }
  | .testingGeneration observed final =>
      { state with
        loop :=
          if state.kickGeneration ≠ observed then .unlocking
          else .testingQueue observed final (.start chance) }
  | .testingQueue observed final call => state.queueStep observed final call
  | .releasing observed =>
      { state with
        kickMutex := none
        loop := .waiting observed }
  | .waiting _ => state
  | .woken observed timedOut =>
      if state.kickMutex = none then
        { state with
          kickMutex := some .loop
          loop := .testingStop observed timedOut }
      else
        state
  | .unlocking =>
      { state with
        kickMutex := none
        loop := .checking }
  | .finishing =>
      { state with
        running := false
        loop := .finished }
  | .finished => state

end State

/-! ## Interleavings -/

/-- A waiting thread may also wake by itself or after a timeout. -/
inductive Move
  | request (cmd : Command)
  | stop
  | web
  | loop (chance : Bool)
  | wake (timedOut : Bool)

namespace State

/-- The web server begins a call only when it is between two calls. -/
def begin (call : WebThread) (state : State) : State :=
  match state.web with
  | .idle => { state with web := call }
  | _ => state

def wake (timedOut : Bool) (state : State) : State :=
  match state.loop with
  | .waiting observed => { state with loop := .woken observed timedOut }
  | _ => state

def step (state : State) : Move → State
  | .request cmd => state.begin (.pushing (.start cmd))
  | .stop => state.begin .stopping
  | .web => state.webStep
  | .loop chance => state.loopStep chance
  | .wake timedOut => state.wake timedOut

end State

def run (moves : List Move) : State :=
  moves.foldl State.step State.create

/-! ## The queue between the two threads -/

def WebThread.producer : WebThread → Option (Push Command)
  | .pushing call => some call
  | _ => none

def LoopThread.consumer : LoopThread → Option (Consumption Command)
  | .draining call => some (.popping call)
  | .testingQueue _ _ call => some (.testing call)
  | _ => none

namespace State

/-- What the two threads are doing to the queue. -/
def threads (state : State) : QueueThreads where
  channel := state.channel
  producer := state.web.producer
  consumer := state.loop.consumer

theorem reaches_of_eq {state after : State}
    (same : after.threads = state.threads) :
    state.threads.Reaches after.threads := by
  rw [same]
  exact .rfl

theorem notified_consumer (loop : LoopThread) :
    loop.notified.consumer = loop.consumer := by
  cases loop <;> rfl

theorem begin_reaches (state : State) {call : WebThread}
    (begins : call.producer = none ∨ ∃ cmd, call = .pushing (.start cmd)) :
    state.threads.Reaches (state.begin call).threads := by
  rw [begin]
  split
  case h_1 idle =>
    have between : state.threads.producer = none := by
      simp [threads, idle, WebThread.producer]
    rcases begins with none | ⟨cmd, rfl⟩
    · apply reaches_of_eq
      simp only [threads, idle, none]
      rfl
    · apply Threads.Reaches.of_step (.push cmd)
      rw [Threads.step, Threads.beginPush, between]
      rfl
  case h_2 => exact .rfl

theorem pushStep_reaches {state : State} {call : Push Command}
    (pushing : state.web = .pushing call) :
    state.threads.Reaches (state.pushStep call).threads := by
  have going : state.threads.producer = some call := by
    simp [threads, pushing, WebThread.producer]
  apply Threads.Reaches.of_step .produce
  rw [Threads.step, Threads.produce, going]
  simp only [threads, pushStep, Threads.mk.injEq, true_and, and_true]
  split
  case h_1 next goesOn => simp [goesOn, WebThread.producer]
  case h_2 accepted => simp [accepted, WebThread.producer]
  case h_3 refused => simp [refused, WebThread.producer]

/-- A kick does not touch the queue. -/
theorem kickStep_reaches {state : State} {byStop : Bool} {kick : Kick}
    (kicking : state.web = .kicking byStop kick) :
    state.threads.Reaches (state.kickStep byStop kick).threads := by
  apply reaches_of_eq
  cases kick with
  | locking =>
      rw [kickStep]
      split <;> simp [threads, kicking, WebThread.producer]
  | counting => simp [kickStep, threads, kicking, WebThread.producer]
  | notifying =>
      simp [kickStep, threads, kicking, WebThread.producer,
        notified_consumer]
  | unlocking =>
      cases byStop <;>
        simp [kickStep, threads, kicking, WebThread.producer]

theorem webStep_reaches (state : State) :
    state.threads.Reaches state.webStep.threads := by
  rw [webStep]
  split
  case h_1 => exact .rfl
  case h_2 call pushing => exact pushStep_reaches pushing
  case h_3 byStop kick kicking => exact kickStep_reaches kicking
  case h_4 stopping =>
    apply reaches_of_eq
    cases state.running <;>
      simp [threads, stopping, WebThread.producer]
  case h_5 requesting =>
    apply reaches_of_eq
    simp [threads, requesting, WebThread.producer]
  case h_6 clearing =>
    apply reaches_of_eq
    simp [threads, clearing, WebThread.producer]
  case h_7 joining =>
    apply reaches_of_eq
    cases loop : state.loop <;>
      simp [threads, joining, WebThread.producer, loop]

theorem drainStep_reaches {state : State} {call : Pop Command}
    (draining : state.loop = .draining call) :
    state.threads.Reaches (state.drainStep call).threads := by
  have going : state.threads.consumer = some (.popping call) := by
    simp [threads, draining, LoopThread.consumer]
  have consumed : state.threads.consume =
      { state.threads with
        channel := (call.step state.channel).1
        consumer :=
          (call.step state.channel).2.getLeft?.map Consumption.popping } := by
    rw [Threads.consume, going]
    rfl
  cases next : (call.step state.channel).2 with
  | inl next' =>
      apply Threads.Reaches.of_step .consume
      rw [Threads.step, consumed]
      simp [threads, drainStep, next, LoopThread.consumer]
  | inr popped =>
      cases popped with
      | none =>
          apply Threads.Reaches.of_step .consume
          rw [Threads.step, consumed]
          simp [threads, drainStep, next, LoopThread.consumer]
      | some cmd =>
          refine ⟨[.consume, .pop], ?_⟩
          rw [List.foldl_cons, Threads.step, consumed]
          simp [threads, drainStep, next, LoopThread.consumer, Threads.step,
            Threads.beginConsumption]

theorem queueStep_reaches {state : State} {observed : Nat} {final : Bool}
    {call : Test Command}
    (testing : state.loop = .testingQueue observed final call) :
    state.threads.Reaches (state.queueStep observed final call).threads := by
  have going : state.threads.consumer = some (.testing call) := by
    simp [threads, testing, LoopThread.consumer]
  apply Threads.Reaches.of_step .consume
  rw [Threads.step, Threads.consume, going]
  simp only [threads, queueStep, Consumption.step, Threads.mk.injEq, true_and]
  cases next : call.step state.channel with
  | inl next' => simp [LoopThread.consumer]
  | inr empty => cases empty <;> cases final <;> simp [LoopThread.consumer]

/-- The loop begins to use the queue when it starts a pop or a test. -/
theorem reaches_of_begin {state after : State}
    (between : state.loop.consumer = none)
    (channel : after.channel = state.channel)
    (web : after.web = state.web)
    (begins : after.loop.consumer = none ∨
      after.loop = .draining .start ∨ ∃ observed final chance,
        after.loop = .testingQueue observed final (.start chance)) :
    state.threads.Reaches after.threads := by
  rcases begins with none | draining | ⟨observed, final, chance, testing⟩
  · apply reaches_of_eq
    simp [threads, between, channel, web, none]
  · apply Threads.Reaches.of_step .pop
    simp only [Threads.step, Threads.beginConsumption, threads, between,
      channel, web, draining]
    rfl
  · apply Threads.Reaches.of_step (.empty chance)
    simp only [Threads.step, Threads.beginConsumption, threads, between,
      channel, web, testing]
    rfl

theorem loopStep_reaches (state : State) (chance : Bool) :
    state.threads.Reaches (state.loopStep chance).threads := by
  cases loop : state.loop with
  | draining call =>
      simp only [loopStep, loop]
      exact drainStep_reaches loop
  | testingQueue observed final call =>
      simp only [loopStep, loop]
      exact queueStep_reaches loop
  | checking =>
      simp only [loopStep, loop]
      refine reaches_of_begin (by rw [loop]; rfl) rfl rfl ?_
      cases state.stopRequested with
      | true => exact Or.inl rfl
      | false => exact Or.inr (Or.inl rfl)
  | testingGeneration observed final =>
      simp only [loopStep, loop]
      refine reaches_of_begin (by rw [loop]; rfl) rfl rfl ?_
      split
      case isTrue => exact Or.inl rfl
      case isFalse => exact Or.inr (Or.inr ⟨observed, final, chance, rfl⟩)
  | waiting | finished =>
      simp only [loopStep, loop]
      exact .rfl
  | sampling | releasing | unlocking | finishing =>
      simp only [loopStep, loop]
      exact reaches_of_begin (by rw [loop]; rfl) rfl rfl (Or.inl rfl)
  | reading | locking | testingStop | woken =>
      simp only [loopStep, loop]
      split <;>
        exact reaches_of_begin (by rw [loop]; rfl) rfl rfl
          (Or.inl (by first | rfl | rw [loop]; rfl))

theorem step_reaches (state : State) (move : Move) :
    state.threads.Reaches (state.step move).threads := by
  cases move with
  | request cmd => exact state.begin_reaches (Or.inr ⟨cmd, rfl⟩)
  | stop => exact state.begin_reaches (Or.inl rfl)
  | web => exact state.webStep_reaches
  | loop chance => exact state.loopStep_reaches chance
  | wake timedOut =>
      apply reaches_of_eq
      cases loop : state.loop <;>
        simp [step, wake, loop, threads, LoopThread.consumer]

end State

end WakeUp

end Windmi.Core
