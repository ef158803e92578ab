import Windmi.Core.CmdQueue
import Windmi.Library.SpscRuns

/-!
# The command queue between its two threads

`CmdQueue` of `src/core/ControlLoop.cpp` with every atomic load, every copy of
a command and every atomic store as a step of its own.  The web server pushes;
the control loop pops and, before it sleeps, asks whether the queue is empty.
`current_tail` and `current_head` are what a call has loaded.  C++ leaves open
which of its two indices `empty` loads first.
-/

namespace Windmi.Core

open Windmi.Library Windmi.Library.Spsc

abbrev QueueThreads := Threads Command cmdQueueCapacity

namespace QueueThreads

def create : QueueThreads :=
  Threads.create CmdQueue.create

/-- Any interleaving of the steps of the two threads. -/
def run (moves : List (Move Command)) : QueueThreads :=
  moves.foldl Threads.step create

theorem create_sound : create.Sound :=
  Threads.Sound.create rfl rfl

theorem run_sound (moves : List (Move Command)) : (run moves).Sound :=
  create_sound.run moves

/-! ## Calls in one piece -/

theorem push_alone {threads : QueueThreads} (idle : threads.producer = none)
    (cmd : Command) :
    ([.push cmd, .produce, .produce, .produce, .produce].foldl
      Threads.step threads).channel.ring =
        (CmdQueue.push cmd threads.channel.ring).2 :=
  Threads.push_alone idle cmd

theorem pop_alone {threads : QueueThreads} (idle : threads.consumer = none) :
    ([.pop, .consume, .consume, .consume, .consume].foldl
      Threads.step threads).channel.ring =
        (CmdQueue.pop threads.channel.ring).2 :=
  Threads.pop_alone idle

/-- Between any two steps the ring holds the commands which wait. -/
theorem contents_run (moves : List (Move Command)) :
    (run moves).channel.ring.contents = (run moves).channel.waiting :=
  (run_sound moves).channel.contents_eq

/-! ## A bounded queue -/

/--
What holds between two steps, and of the next step of either thread: fifteen
commands fit, and a call which reports a full or an empty queue is right about
the moment when it loaded the index of the other thread.
-/
structure RefinesFifo (threads : QueueThreads) : Prop where
  inOrder : threads.channel.popped <+: threads.channel.accepted
  exclusive : ∀ push ∈ threads.producer, ∀ call ∈ threads.consumer,
    ∀ written ∈ push.writes, ∀ held ∈ call.holds, written ≠ held
  bounded : threads.channel.waiting.length ≤ 15
  refused : ∀ push ∈ threads.producer,
    (push.step threads.channel).2 = .inr false →
      threads.channel.waiting.length = 15
  missed : ∀ pop, threads.consumer = some (.popping pop) →
    (pop.step threads.channel).2 = .inr none → threads.channel.waiting = []
  foundEmpty : ∀ test, threads.consumer = some (.testing test) →
    test.step threads.channel = .inr true → test.seen threads.channel = []
  fifoStep : ∀ move, FifoStep 15 threads.channel.waiting
    (threads.step move).channel.waiting

/-- However the steps of the web server and the control loop interleave. -/
theorem cmdQueue_refines_fifo (moves : List (Move Command)) :
    RefinesFifo (run moves) := by
  have sound := run_sound moves
  refine ⟨sound.channel.inOrder, ?exclusive, ?bounded, ?refused, ?missed,
    ?foundEmpty, fun move => sound.fifoStep move⟩
  case exclusive =>
    intro push pushing call consuming written writes held holds
    exact writes_ne_holds sound.channel (sound.producer push pushing)
      (sound.consumer call consuming) writes holds
  case bounded =>
    exact Nat.le_of_succ_le_succ sound.channel.length_waiting
  case refused =>
    intro push pushing refused
    have full := (sound.producer push pushing).refused sound.channel refused
    exact Nat.succ_injective full
  case missed =>
    intro pop popping missed
    have fits : pop.Fits (run moves).channel := sound.consumer _ popping
    exact fits.missed sound.channel missed
  case foundEmpty =>
    intro test testing empty
    have fits : test.Fits (run moves).channel := sound.consumer _ testing
    exact fits.found_empty sound.channel empty

end QueueThreads

end Windmi.Core
