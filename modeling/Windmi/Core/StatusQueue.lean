import Windmi.Core.ControlLoop
import Mathlib.Logic.Function.Basic

/-!
# The status queue between its two threads

`StatusQueue` of `src/core/ControlLoop.cpp`: the control loop pushes and never
waits, so that a push on a full ring drops the oldest snapshot; the web server
pops or asks for the latest one.  Both threads store the head.  Every atomic
access and every copy of a snapshot is a step of its own.
-/

namespace Windmi.Core

/-- A snapshot comes with the number of its push, which the code does not keep. -/
structure Numbered where
  number : Nat
  snapshot : StatusSnapshot
  deriving DecidableEq

/--
The indices are 32-bit words.  The counts of pushes begun, of slots written and
of pushes completed, the largest head which a push stored and the snapshots
which pops returned are kept beside them.
-/
structure StatusQueue where
  slots : Nat → Numbered
  head : Nat
  tail : Nat
  writeIndex : Nat
  pushes : Nat
  writes : Nat
  completed : Nat
  trimmed : Nat
  popped : List Numbered

namespace StatusQueue

def capacity : Nat := 32

/-- Arithmetic of `uint32_t`. -/
def word (value : Nat) : Nat :=
  value % 2 ^ 32

def wordSub (left right : Nat) : Nat :=
  (left + 2 ^ 32 - right) % 2 ^ 32

def create : StatusQueue where
  slots := fun _ => ⟨0, {}⟩
  head := 0
  tail := 0
  writeIndex := 0
  pushes := 0
  writes := 0
  completed := 0
  trimmed := 0
  popped := []

/-! ## Stores -/

def storeWriteIndex (index : Nat) (queue : StatusQueue) : StatusQueue :=
  { queue with writeIndex := index }

def writeSlot (index : Nat) (item : StatusSnapshot) (queue : StatusQueue) :
    StatusQueue :=
  { queue with
    slots := Function.update queue.slots index ⟨queue.writes, item⟩
    writes := queue.writes + 1 }

def storeTail (tail : Nat) (queue : StatusQueue) : StatusQueue :=
  { queue with tail := tail }

/-- A push returns. -/
def complete (queue : StatusQueue) : StatusQueue :=
  { queue with completed := queue.completed + 1 }

/-- A push stores the head and returns. -/
def trim (head : Nat) (queue : StatusQueue) : StatusQueue :=
  { queue with
    head := head
    trimmed := max queue.trimmed head
    completed := queue.completed + 1 }

/-- A pop stores the head and returns a snapshot. -/
def storeHead (head : Nat) (item : Numbered) (queue : StatusQueue) :
    StatusQueue :=
  { queue with
    head := head
    popped := queue.popped ++ [item] }

section Counts

variable (queue : StatusQueue)

theorem storeWriteIndex_pushes (index : Nat) :
    (queue.storeWriteIndex index).pushes = queue.pushes :=
  rfl

theorem writeSlot_pushes (index : Nat) (item : StatusSnapshot) :
    (queue.writeSlot index item).pushes = queue.pushes :=
  rfl

theorem storeTail_pushes (tail : Nat) :
    (queue.storeTail tail).pushes = queue.pushes :=
  rfl

theorem complete_pushes : queue.complete.pushes = queue.pushes :=
  rfl

theorem trim_pushes (head : Nat) :
    (queue.trim head).pushes = queue.pushes :=
  rfl

theorem storeHead_pushes (head : Nat) (item : Numbered) :
    (queue.storeHead head item).pushes = queue.pushes :=
  rfl

end Counts

/-! ## Calls -/

/-- Where a call of `push` stands. -/
inductive Push
  | start (item : StatusSnapshot)
  | reserved (item : StatusSnapshot) (writeIdx : Nat)
  | written (writeIdx : Nat)
  | stored (writeIdx : Nat)
  | trimming (writeIdx : Nat)

/-- The next step of a push, which goes on or returns true. -/
def Push.step (queue : StatusQueue) : Push → StatusQueue × Option Push
  | .start item =>
      (queue.storeWriteIndex (word (queue.writeIndex + 1)),
        some (.reserved item queue.writeIndex))
  | .reserved item writeIdx =>
      (queue.writeSlot (writeIdx % capacity) item, some (.written writeIdx))
  | .written writeIdx =>
      (queue.storeTail (word (writeIdx + 1)), some (.stored writeIdx))
  | .stored writeIdx =>
      if wordSub (word (writeIdx + 1)) queue.head > capacity - 1 then
        (queue, some (.trimming writeIdx))
      else
        (queue.complete, none)
  | .trimming writeIdx =>
      (queue.trim (wordSub (word (writeIdx + 1)) (capacity - 1)), none)

/-- Where a call of `pop` stands. -/
inductive Pop
  | start
  | loadedHead (head : Nat)
  | found (head : Nat)
  | copied (head : Nat) (item : Numbered)
  deriving DecidableEq

def Pop.step (queue : StatusQueue) :
    Pop → StatusQueue × (Pop ⊕ Option Numbered)
  | .start => (queue, .inl (.loadedHead queue.head))
  | .loadedHead head =>
      if head ≥ queue.tail then
        (queue, .inr none)
      else
        (queue, .inl (.found head))
  | .found head =>
      (queue, .inl (.copied head (queue.slots (head % capacity))))
  | .copied head item =>
      (queue.storeHead (word (head + 1)) item, .inr (some item))

/-- Where a call of `latest` stands. -/
inductive Latest
  | start
  | loadedTail (tail : Nat)
  | found (tail : Nat)
  deriving DecidableEq

def Latest.step (queue : StatusQueue) : Latest → Latest ⊕ Option Numbered
  | .start => .inl (.loadedTail queue.tail)
  | .loadedTail tail =>
      if queue.head ≥ tail then
        .inr none
      else
        .inl (.found tail)
  | .found tail => .inr (some (queue.slots ((tail - 1) % capacity)))

/--
What the web server is doing.  A call of `latest` comes with the number of
pushes which were completed when it began.
-/
inductive Reading
  | popping (call : Pop)
  | viewing (completed : Nat) (call : Latest)
  deriving DecidableEq

def Reading.step (queue : StatusQueue) :
    Reading → StatusQueue × Option Reading
  | .popping call =>
      ((call.step queue).1, (call.step queue).2.getLeft?.map .popping)
  | .viewing completed call =>
      (queue, (call.step queue).getLeft?.map (.viewing completed))

/-! ## Interleavings -/

structure Threads where
  queue : StatusQueue
  producer : Option Push
  consumer : Option Reading

inductive Move
  | push (item : StatusSnapshot)
  | produce
  | pop
  | latest
  | consume

namespace Threads

def create : Threads where
  queue := StatusQueue.create
  producer := none
  consumer := none

/-- A thread begins a call only when it is between two calls. -/
def beginPush (item : StatusSnapshot) (threads : Threads) : Threads :=
  match threads.producer with
  | none =>
      { threads with
        queue := { threads.queue with pushes := threads.queue.pushes + 1 }
        producer := some (.start item) }
  | some _ => threads

def beginReading (call : Reading) (threads : Threads) : Threads :=
  { threads with consumer := threads.consumer.or (some call) }

def produce (threads : Threads) : Threads :=
  match threads.producer with
  | none => threads
  | some call =>
      { threads with
        queue := (call.step threads.queue).1
        producer := (call.step threads.queue).2 }

def consume (threads : Threads) : Threads :=
  match threads.consumer with
  | none => threads
  | some call =>
      { threads with
        queue := (call.step threads.queue).1
        consumer := (call.step threads.queue).2 }

def step (threads : Threads) : Move → Threads
  | .push item => threads.beginPush item
  | .produce => threads.produce
  | .pop => threads.beginReading (.popping .start)
  | .latest =>
      threads.beginReading (.viewing threads.queue.completed .start)
  | .consume => threads.consume

end Threads

def run (moves : List Move) : Threads :=
  moves.foldl Threads.step Threads.create

end StatusQueue

end Windmi.Core
