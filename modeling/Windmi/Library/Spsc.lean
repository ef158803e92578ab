import Windmi.Library.Ring
import Windmi.Library.Runs

/-!
# A ring buffer between two threads

One thread pushes and another one pops.  Every load of an index, every copy of
a slot and every store of an index is a step of its own, and the steps of the
two threads interleave in any order.  A push takes effect when it stores the
tail and a pop when it stores the head.
-/

namespace Windmi.Library

namespace Spsc

variable {Item : Type*} {capacity : Nat}

/-! ## Shared memory -/

/-- A ring, and what passed through it so far. -/
structure Channel (Item : Type*) (capacity : Nat) where
  ring : Ring Item capacity
  accepted : List Item
  popped : List Item

namespace Channel

def create (ring : Ring Item capacity) : Channel Item capacity where
  ring := ring
  accepted := []
  popped := []

/-- The items which were accepted and not popped yet, oldest first. -/
def waiting (channel : Channel Item capacity) : List Item :=
  channel.accepted.drop channel.popped.length

def writeSlot (index : Nat) (item : Item)
    (channel : Channel Item capacity) : Channel Item capacity :=
  { channel with
    ring :=
      { channel.ring with
        slots := Function.update channel.ring.slots index item } }

/-- The item in front of the new tail is accepted from now on. -/
def storeTail (index : Nat) (item : Item)
    (channel : Channel Item capacity) : Channel Item capacity :=
  { channel with
    ring :=
      { channel.ring with
        tail := index % capacity
        tail_lt := Nat.mod_lt _ (Nat.zero_lt_of_lt channel.ring.tail_lt) }
    accepted := channel.accepted ++ [item] }

def storeHead (index : Nat) (item : Item)
    (channel : Channel Item capacity) : Channel Item capacity :=
  { channel with
    ring :=
      { channel.ring with
        head := index % capacity
        head_lt := Nat.mod_lt _ (Nat.zero_lt_of_lt channel.ring.head_lt) }
    popped := channel.popped ++ [item] }

end Channel

/-! ## Calls -/

/-- Where a call of `push` stands, with what it has loaded. -/
inductive Push (Item : Type*)
  | start (item : Item)
  | loadedTail (item : Item) (tail : Nat)
  | admitted (item : Item) (tail : Nat)
  | written (item : Item) (tail : Nat)

/-- The next step of a push, which goes on or returns. -/
def Push.step (channel : Channel Item capacity) :
    Push Item → Channel Item capacity × (Push Item ⊕ Bool)
  | .start item => (channel, .inl (.loadedTail item channel.ring.tail))
  | .loadedTail item tail =>
      if (tail + 1) % capacity = channel.ring.head then
        (channel, .inr false)
      else
        (channel, .inl (.admitted item tail))
  | .admitted item tail =>
      (channel.writeSlot tail item, .inl (.written item tail))
  | .written item tail => (channel.storeTail (tail + 1) item, .inr true)

/-- Where a call of `pop` stands. -/
inductive Pop (Item : Type*)
  | start
  | loadedHead (head : Nat)
  | found (head : Nat)
  | copied (head : Nat) (item : Item)

def Pop.step (channel : Channel Item capacity) :
    Pop Item → Channel Item capacity × (Pop Item ⊕ Option Item)
  | .start => (channel, .inl (.loadedHead channel.ring.head))
  | .loadedHead head =>
      if head = channel.ring.tail then
        (channel, .inr none)
      else
        (channel, .inl (.found head))
  | .found head => (channel, .inl (.copied head (channel.ring.slots head)))
  | .copied head item => (channel.storeHead (head + 1) item, .inr (some item))

/--
Where a call of `empty` stands.  Either index may be loaded first; a tail which
was loaded first comes with the items which were waiting then.
-/
inductive Test (Item : Type*)
  | start (headFirst : Bool)
  | loadedHead (head : Nat)
  | loadedTail (tail : Nat) (waiting : List Item)

def Test.step (channel : Channel Item capacity) :
    Test Item → Test Item ⊕ Bool
  | .start true => .inl (.loadedHead channel.ring.head)
  | .start false => .inl (.loadedTail channel.ring.tail channel.waiting)
  | .loadedHead head => .inr (decide (head = channel.ring.tail))
  | .loadedTail tail _ => .inr (decide (channel.ring.head = tail))

/-- What the consumer is doing. -/
inductive Consumption (Item : Type*)
  | popping (call : Pop Item)
  | testing (call : Test Item)

/-- The next step of the consumer, which goes on or is between two calls. -/
def Consumption.step (channel : Channel Item capacity) :
    Consumption Item → Channel Item capacity × Option (Consumption Item)
  | .popping call =>
      ((call.step channel).1, (call.step channel).2.getLeft?.map .popping)
  | .testing call => (channel, (call.step channel).getLeft?.map .testing)

/-! ## Interleavings -/

structure Threads (Item : Type*) (capacity : Nat) where
  channel : Channel Item capacity
  producer : Option (Push Item)
  consumer : Option (Consumption Item)

inductive Move (Item : Type*)
  | push (item : Item)
  | produce
  | pop
  | empty (headFirst : Bool)
  | consume

namespace Threads

def create (ring : Ring Item capacity) : Threads Item capacity where
  channel := Channel.create ring
  producer := none
  consumer := none

/-- A thread begins a call only when it is between two calls. -/
def beginPush (item : Item) (threads : Threads Item capacity) :
    Threads Item capacity :=
  { threads with
    producer := threads.producer.or (some (.start item)) }

def beginConsumption (call : Consumption Item)
    (threads : Threads Item capacity) : Threads Item capacity :=
  { threads with consumer := threads.consumer.or (some call) }

def produce (threads : Threads Item capacity) : Threads Item capacity :=
  match threads.producer with
  | none => threads
  | some call =>
      { threads with
        channel := (call.step threads.channel).1
        producer := (call.step threads.channel).2.getLeft? }

def consume (threads : Threads Item capacity) : Threads Item capacity :=
  match threads.consumer with
  | none => threads
  | some call =>
      { threads with
        channel := (call.step threads.channel).1
        consumer := (call.step threads.channel).2 }

def step (threads : Threads Item capacity) :
    Move Item → Threads Item capacity
  | .push item => threads.beginPush item
  | .produce => threads.produce
  | .pop => threads.beginConsumption (.popping .start)
  | .empty headFirst =>
      threads.beginConsumption (.testing (.start headFirst))
  | .consume => threads.consume

end Threads

/-! ## Positions -/

theorem mod_succ (position : Nat) :
    (position % capacity + 1) % capacity = (position + 1) % capacity := by
  rw [Nat.mod_add_mod]

/-! ## The invariant -/

namespace Channel

/--
The indices are the numbers of items popped and accepted, and what is waiting
lies in the slots between them.
-/
structure Sound (channel : Channel Item capacity) : Prop where
  inOrder : channel.popped <+: channel.accepted
  bounded : channel.accepted.length < channel.popped.length + capacity
  head_eq : channel.ring.head = channel.popped.length % capacity
  tail_eq : channel.ring.tail = channel.accepted.length % capacity
  slots_eq : ∀ position, channel.popped.length ≤ position →
    position < channel.accepted.length →
      channel.accepted[position]? =
        some (channel.ring.slots (position % capacity))

namespace Sound

variable {channel : Channel Item capacity}

theorem length_le (sound : channel.Sound) :
    channel.popped.length ≤ channel.accepted.length :=
  sound.inOrder.length_le

theorem create {ring : Ring Item capacity} (head : ring.head = 0)
    (tail : ring.tail = 0) : (Channel.create ring).Sound where
  inOrder := List.prefix_rfl
  bounded := by
    have positive := Nat.zero_lt_of_lt ring.head_lt
    simpa [Channel.create] using positive
  head_eq := by simp [Channel.create, head]
  tail_eq := by simp [Channel.create, tail]
  slots_eq := by
    intro position _ below
    simp [Channel.create] at below

/-- The consumer finds the indices equal exactly if nothing is waiting. -/
theorem head_eq_tail_iff (sound : channel.Sound) :
    channel.ring.head = channel.ring.tail ↔ channel.waiting = [] := by
  have ordered := sound.length_le
  rw [eq_comm, sound.head_eq, sound.tail_eq,
    mod_eq_mod_iff ordered sound.bounded, waiting, List.drop_eq_nil_iff]
  omega

/-- The producer finds the ring full exactly if one slot is left. -/
theorem full_iff (sound : channel.Sound) :
    (channel.ring.tail + 1) % capacity = channel.ring.head ↔
      channel.accepted.length + 1 = channel.popped.length + capacity := by
  have ordered := sound.length_le
  have bounded := sound.bounded
  rw [sound.head_eq, sound.tail_eq, mod_succ]
  by_cases lap : channel.accepted.length + 1 = channel.popped.length + capacity
  · simp [lap]
  · have inside : channel.accepted.length + 1 <
        channel.popped.length + capacity := by
      omega
    rw [mod_eq_mod_iff (by omega) inside]
    omega

theorem length_waiting (sound : channel.Sound) :
    channel.waiting.length + 1 ≤ capacity := by
  have ordered := sound.length_le
  have bounded := sound.bounded
  rw [waiting, List.length_drop]
  omega

/-- The slot behind the accepted items can be written. -/
theorem writeSlot (sound : channel.Sound) (item : Item) :
    (channel.writeSlot channel.ring.tail item).Sound where
  inOrder := sound.inOrder
  bounded := sound.bounded
  head_eq := sound.head_eq
  tail_eq := sound.tail_eq
  slots_eq := by
    intro position (popped : channel.popped.length ≤ position)
      (accepted : position < channel.accepted.length)
    have bounded := sound.bounded
    have other : position % capacity ≠ channel.ring.tail := by
      rw [sound.tail_eq, ne_comm, Ne,
        mod_eq_mod_iff (Nat.le_of_lt accepted) (by omega)]
      exact Nat.ne_of_gt accepted
    show channel.accepted[position]? =
      some (Function.update channel.ring.slots channel.ring.tail item
        (position % capacity))
    rw [Function.update_of_ne other]
    exact sound.slots_eq position popped accepted

/-- An item whose slot is written can be accepted while there is room. -/
theorem storeTail (sound : channel.Sound) {item : Item}
    (room : channel.accepted.length + 1 < channel.popped.length + capacity)
    (written : channel.ring.slots channel.ring.tail = item) :
    (channel.storeTail (channel.ring.tail + 1) item).Sound where
  inOrder := sound.inOrder.trans (List.prefix_append _ _)
  bounded := by
    simpa [Channel.storeTail] using room
  head_eq := sound.head_eq
  tail_eq := by
    simp [Channel.storeTail, sound.tail_eq]
  slots_eq := by
    intro position popped accepted
    simp only [Channel.storeTail, List.length_append, List.length_singleton]
      at popped accepted ⊢
    by_cases old : position < channel.accepted.length
    · rw [List.getElem?_append_left old]
      exact sound.slots_eq position popped old
    · have last : position = channel.accepted.length := by
        omega
      rw [last, ← sound.tail_eq, written, List.getElem?_concat_length]

/-- The oldest item can be popped once it was copied. -/
theorem storeHead (sound : channel.Sound) {item : Item}
    (oldest : channel.accepted[channel.popped.length]? = some item) :
    (channel.storeHead (channel.ring.head + 1) item).Sound where
  inOrder := by
    rcases sound.inOrder with ⟨rest, split⟩
    rw [← split, List.getElem?_append_right (Nat.le_refl _),
      Nat.sub_self] at oldest
    cases rest with
    | nil => simp at oldest
    | cons next rest =>
        rw [List.getElem?_cons_zero, Option.some.injEq] at oldest
        refine ⟨rest, ?_⟩
        rw [Channel.storeHead, ← split, oldest, List.append_assoc,
          List.singleton_append]
  bounded := by
    have bounded := sound.bounded
    simp only [Channel.storeHead, List.length_append, List.length_singleton]
    omega
  head_eq := by
    simp [Channel.storeHead, sound.head_eq]
  tail_eq := sound.tail_eq
  slots_eq := by
    intro position popped accepted
    simp only [Channel.storeHead, List.length_append, List.length_singleton]
      at popped accepted ⊢
    exact sound.slots_eq position (by omega) accepted

end Sound

end Channel

end Spsc

end Windmi.Library
