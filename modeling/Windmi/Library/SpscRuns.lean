import Windmi.Library.Spsc

/-!
# Interleavings of the two threads of a ring

Whatever the order of the steps, what has been popped is what was accepted,
oldest first, and what a call has loaded or copied stays true until it uses it.
-/

namespace Windmi.Library

namespace Spsc

variable {Item : Type*} {capacity : Nat}

/-! ## What a call knows -/

section Calls

variable {channel after : Channel Item capacity}

/-- What a push has loaded and written is still there. -/
def Push.Fits (channel : Channel Item capacity) : Push Item → Prop
  | .start _ => True
  | .loadedTail _ tail => tail = channel.ring.tail
  | .admitted _ tail =>
      tail = channel.ring.tail ∧
        channel.accepted.length + 1 < channel.popped.length + capacity
  | .written item tail =>
      tail = channel.ring.tail ∧
        channel.accepted.length + 1 < channel.popped.length + capacity ∧
          channel.ring.slots channel.ring.tail = item

def Pop.Fits (channel : Channel Item capacity) : Pop Item → Prop
  | .start => True
  | .loadedHead head => head = channel.ring.head
  | .found head =>
      head = channel.ring.head ∧
        channel.popped.length < channel.accepted.length
  | .copied head item =>
      head = channel.ring.head ∧
        channel.accepted[channel.popped.length]? = some item

/-- A tail which was loaded first stays ahead by what was waiting then. -/
def Test.Fits (channel : Channel Item capacity) : Test Item → Prop
  | .start _ => True
  | .loadedHead head => head = channel.ring.head
  | .loadedTail tail waiting =>
      tail = (channel.popped.length + waiting.length) % capacity ∧
        waiting.length < capacity

def Consumption.Fits (channel : Channel Item capacity) :
    Consumption Item → Prop
  | .popping call => call.Fits channel
  | .testing call => call.Fits channel

/-- A step of the producer leaves what the consumer relies on. -/
structure Channel.Produced (channel after : Channel Item capacity) :
    Prop where
  head_eq : after.ring.head = channel.ring.head
  popped_eq : after.popped = channel.popped
  accepted : channel.accepted <+: after.accepted

/-- A step of the consumer leaves what the producer relies on. -/
structure Channel.Consumed (channel after : Channel Item capacity) :
    Prop where
  slots_eq : after.ring.slots = channel.ring.slots
  tail_eq : after.ring.tail = channel.ring.tail
  accepted_eq : after.accepted = channel.accepted
  popped : channel.popped <+: after.popped

theorem Push.step_produced (call : Push Item) :
    channel.Produced (call.step channel).1 := by
  cases call with
  | start item => exact ⟨rfl, rfl, List.prefix_rfl⟩
  | loadedTail item tail =>
      rw [Push.step]
      split <;> exact ⟨rfl, rfl, List.prefix_rfl⟩
  | admitted item tail => exact ⟨rfl, rfl, List.prefix_rfl⟩
  | written item tail => exact ⟨rfl, rfl, List.prefix_append _ _⟩

theorem Consumption.step_consumed (call : Consumption Item) :
    channel.Consumed (call.step channel).1 := by
  cases call with
  | testing call => exact ⟨rfl, rfl, rfl, List.prefix_rfl⟩
  | popping call =>
      cases call with
      | start => exact ⟨rfl, rfl, rfl, List.prefix_rfl⟩
      | loadedHead head =>
          rw [Consumption.step, Pop.step]
          split <;> exact ⟨rfl, rfl, rfl, List.prefix_rfl⟩
      | found head => exact ⟨rfl, rfl, rfl, List.prefix_rfl⟩
      | copied head item => exact ⟨rfl, rfl, rfl, List.prefix_append _ _⟩

theorem Consumption.Fits.produced {call : Consumption Item}
    (fits : call.Fits channel) (produced : channel.Produced after) :
    call.Fits after := by
  cases call with
  | popping call =>
      cases call with
      | start => trivial
      | loadedHead head => exact Eq.trans fits produced.head_eq.symm
      | found head =>
          refine ⟨fits.1.trans produced.head_eq.symm, ?_⟩
          rw [produced.popped_eq]
          exact Nat.lt_of_lt_of_le fits.2 produced.accepted.length_le
      | copied head item =>
          refine ⟨fits.1.trans produced.head_eq.symm, ?_⟩
          rw [produced.popped_eq]
          rcases produced.accepted with ⟨rest, extended⟩
          have inside := (List.getElem?_eq_some_iff.mp fits.2).1
          rw [← extended, List.getElem?_append_left inside]
          exact fits.2
  | testing call =>
      cases call with
      | start headFirst => trivial
      | loadedHead head => exact Eq.trans fits produced.head_eq.symm
      | loadedTail tail waiting =>
          refine ⟨?_, fits.2⟩
          rw [produced.popped_eq]
          exact fits.1

theorem Push.Fits.consumed {call : Push Item} (fits : call.Fits channel)
    (consumed : channel.Consumed after) : call.Fits after := by
  have popped := consumed.popped.length_le
  cases call with
  | start item => trivial
  | loadedTail item tail => exact Eq.trans fits consumed.tail_eq.symm
  | admitted item tail =>
      refine ⟨fits.1.trans consumed.tail_eq.symm, ?_⟩
      have room := fits.2
      rw [consumed.accepted_eq]
      omega
  | written item tail =>
      rcases fits with ⟨loaded, room, written⟩
      refine ⟨loaded.trans consumed.tail_eq.symm, ?_, ?_⟩
      · rw [consumed.accepted_eq]
        omega
      · rw [consumed.slots_eq, consumed.tail_eq]
        exact written

/-- A step of a push keeps the channel sound, and the push knows about it. -/
theorem Push.Fits.step {call : Push Item} (fits : call.Fits channel)
    (sound : channel.Sound) :
    (call.step channel).1.Sound ∧
      ∀ next ∈ (call.step channel).2.getLeft?,
        next.Fits (call.step channel).1 := by
  cases call with
  | start item =>
      refine ⟨sound, ?_⟩
      rintro next ⟨⟩
      rfl
  | loadedTail item tail =>
      cases fits
      rw [Push.step]
      split
      case isTrue full =>
        refine ⟨sound, ?_⟩
        rintro next ⟨⟩
      case isFalse room =>
        refine ⟨sound, ?_⟩
        rintro next ⟨⟩
        have bounded := sound.bounded
        rw [sound.full_iff] at room
        have inside : channel.accepted.length + 1 <
            channel.popped.length + capacity := by
          omega
        exact ⟨rfl, inside⟩
  | admitted item tail =>
      rcases fits with ⟨rfl, room⟩
      refine ⟨sound.writeSlot item, ?_⟩
      rintro next ⟨⟩
      exact ⟨rfl, room, Function.update_self _ _ _⟩
  | written item tail =>
      rcases fits with ⟨rfl, room, written⟩
      refine ⟨sound.storeTail room written, ?_⟩
      rintro next ⟨⟩

theorem Pop.Fits.step {call : Pop Item} (fits : call.Fits channel)
    (sound : channel.Sound) :
    (call.step channel).1.Sound ∧
      ∀ next ∈ (call.step channel).2.getLeft?,
        next.Fits (call.step channel).1 := by
  cases call with
  | start =>
      refine ⟨sound, ?_⟩
      rintro next ⟨⟩
      rfl
  | loadedHead head =>
      cases fits
      rw [Pop.step]
      split
      case isTrue none =>
        refine ⟨sound, ?_⟩
        rintro next ⟨⟩
      case isFalse some =>
        refine ⟨sound, ?_⟩
        rintro next ⟨⟩
        rw [sound.head_eq_tail_iff, Channel.waiting,
          List.drop_eq_nil_iff] at some
        exact ⟨rfl, Nat.lt_of_not_le some⟩
  | found head =>
      rcases fits with ⟨rfl, inside⟩
      refine ⟨sound, ?_⟩
      rintro next ⟨⟩
      have oldest := sound.slots_eq _ (Nat.le_refl _) inside
      rw [← sound.head_eq] at oldest
      exact ⟨rfl, oldest⟩
  | copied head item =>
      rcases fits with ⟨rfl, oldest⟩
      refine ⟨sound.storeHead oldest, ?_⟩
      rintro next ⟨⟩

theorem Test.Fits.step {call : Test Item} (fits : call.Fits channel)
    (sound : channel.Sound) :
    ∀ next ∈ (call.step channel).getLeft?, next.Fits channel := by
  cases call with
  | start headFirst =>
      cases headFirst with
      | true =>
          rintro next ⟨⟩
          rfl
      | false =>
          rintro next ⟨⟩
          have ordered := sound.length_le
          have whole : channel.popped.length + channel.waiting.length =
              channel.accepted.length := by
            rw [Channel.waiting, List.length_drop]
            omega
          refine ⟨?_, sound.length_waiting⟩
          rw [whole]
          exact sound.tail_eq
  | loadedHead head => rintro next ⟨⟩
  | loadedTail tail waiting => rintro next ⟨⟩

theorem Consumption.Fits.step {call : Consumption Item}
    (fits : call.Fits channel) (sound : channel.Sound) :
    (call.step channel).1.Sound ∧
      ∀ next ∈ (call.step channel).2, next.Fits (call.step channel).1 := by
  cases call with
  | popping call =>
      have kept := Pop.Fits.step fits sound
      refine ⟨kept.1, ?_⟩
      intro next inside
      rcases Option.map_eq_some_iff.mp inside with ⟨call', inside', rfl⟩
      exact kept.2 call' inside'
  | testing call =>
      have kept := Test.Fits.step fits sound
      refine ⟨sound, ?_⟩
      intro next inside
      rcases Option.map_eq_some_iff.mp inside with ⟨call', inside', rfl⟩
      exact kept call' inside'

end Calls

/-! ## What a call finds out -/

section Outcomes

variable {channel : Channel Item capacity}

/-- The slot which the next step of a push overwrites. -/
def Push.writes : Push Item → Option Nat
  | .admitted _ tail => some tail
  | _ => none

/-- The slot which a pop has found in use and not released yet. -/
def Consumption.holds : Consumption Item → Option Nat
  | .popping (.found head) => some head
  | .popping (.copied head _) => some head
  | _ => none

theorem Consumption.Fits.holds {call : Consumption Item}
    (fits : call.Fits channel) {slot : Nat} (held : slot ∈ call.holds) :
    slot = channel.ring.head ∧
      channel.popped.length < channel.accepted.length := by
  rcases call with call | call <;> cases call <;> cases held
  case popping.found => exact fits
  case popping.copied item =>
      exact ⟨fits.1, (List.getElem?_eq_some_iff.mp fits.2).1⟩

/-- The two threads never work on the same slot. -/
theorem writes_ne_holds (sound : channel.Sound) {push : Push Item}
    (pushFits : push.Fits channel) {call : Consumption Item}
    (callFits : call.Fits channel) {written held : Nat}
    (writes : written ∈ push.writes) (holds : held ∈ call.holds) :
    written ≠ held := by
  rcases callFits.holds holds with ⟨rfl, inside⟩
  cases push <;> cases writes
  case admitted item =>
    rcases pushFits with ⟨rfl, room⟩
    rw [sound.tail_eq, sound.head_eq, Ne,
      mod_eq_mod_iff (Nat.le_of_lt inside) (by omega)]
    exact Nat.ne_of_gt inside

/-- A push fails only if all slots but one are in use. -/
theorem Push.Fits.refused {call : Push Item} (fits : call.Fits channel)
    (sound : channel.Sound)
    (refused : (call.step channel).2 = .inr false) :
    channel.waiting.length + 1 = capacity := by
  cases call with
  | start item => cases refused
  | admitted item tail => cases refused
  | written item tail => cases refused
  | loadedTail item tail =>
      cases fits
      rw [Push.step] at refused
      split at refused
      case isTrue full =>
        have ordered := sound.length_le
        rw [sound.full_iff] at full
        rw [Channel.waiting, List.length_drop]
        omega
      case isFalse => cases refused

/-- A pop fails only if nothing is waiting. -/
theorem Pop.Fits.missed {call : Pop Item} (fits : call.Fits channel)
    (sound : channel.Sound) (missed : (call.step channel).2 = .inr none) :
    channel.waiting = [] := by
  cases call with
  | start => cases missed
  | found head => cases missed
  | copied head item => cases missed
  | loadedHead head =>
      cases fits
      rw [Pop.step] at missed
      split at missed
      case isTrue same => exact sound.head_eq_tail_iff.mp same
      case isFalse => cases missed

/-- What was waiting when a test loaded the tail, which may be now. -/
def Test.seen (channel : Channel Item capacity) : Test Item → List Item
  | .loadedTail _ waiting => waiting
  | _ => channel.waiting

/-- A test says that the ring is empty only if nothing was waiting. -/
theorem Test.Fits.found_empty {call : Test Item} (fits : call.Fits channel)
    (sound : channel.Sound) (empty : call.step channel = .inr true) :
    call.seen channel = [] := by
  cases call with
  | start headFirst => cases headFirst <;> cases empty
  | loadedHead head =>
      cases fits
      rw [Test.step, Sum.inr.injEq, decide_eq_true_iff] at empty
      exact sound.head_eq_tail_iff.mp empty
  | loadedTail tail waiting =>
      rcases fits with ⟨rfl, short⟩
      rw [Test.step, Sum.inr.injEq, decide_eq_true_iff, eq_comm,
        sound.head_eq, mod_eq_mod_iff (Nat.le_add_right _ _)
          (Nat.add_lt_add_left short _)] at empty
      have none : waiting.length = 0 := by
        omega
      exact List.eq_nil_of_length_eq_zero none

end Outcomes

/-! ## The queue behind it -/

/-- What a step may do to a first-in first-out queue of bounded length. -/
inductive FifoStep (bound : Nat) : List Item → List Item → Prop
  | stay (items : List Item) : FifoStep bound items items
  | enqueue (items : List Item) (item : Item) (room : items.length < bound) :
      FifoStep bound items (items ++ [item])
  | dequeue (item : Item) (items : List Item) :
      FifoStep bound (item :: items) items

section Refinement

variable {channel : Channel Item capacity}

theorem Push.Fits.fifoStep {call : Push Item} (fits : call.Fits channel)
    (sound : channel.Sound) :
    FifoStep (capacity - 1) channel.waiting
      (call.step channel).1.waiting := by
  cases call with
  | start item => exact .stay _
  | loadedTail item tail =>
      rw [Push.step]
      split <;> exact .stay _
  | admitted item tail => exact .stay _
  | written item tail =>
      have appended : (Push.step channel (.written item tail)).1.waiting =
          channel.waiting ++ [item] :=
        List.drop_append_of_le_length sound.length_le
      have room := fits.2.1
      have ordered := sound.length_le
      rw [appended]
      refine .enqueue _ item ?_
      rw [Channel.waiting, List.length_drop]
      omega

theorem Consumption.Fits.fifoStep {call : Consumption Item}
    (fits : call.Fits channel) :
    FifoStep (capacity - 1) channel.waiting
      (call.step channel).1.waiting := by
  cases call with
  | testing call => exact .stay _
  | popping call =>
      cases call with
      | start => exact .stay _
      | loadedHead head =>
          rw [Consumption.step, Pop.step]
          split <;> exact .stay _
      | found head => exact .stay _
      | copied head item =>
          rcases List.getElem?_eq_some_iff.mp fits.2 with ⟨inside, rfl⟩
          have oldest : channel.waiting =
              channel.accepted[channel.popped.length] ::
                (Consumption.step channel
                  (.popping (.copied head
                    channel.accepted[channel.popped.length]))).1.waiting := by
            rw [Channel.waiting, List.drop_eq_getElem_cons inside]
            simp [Consumption.step, Pop.step, Channel.storeHead,
              Channel.waiting]
          rw [oldest]
          exact .dequeue _ _

end Refinement

/-! ## Runs -/

namespace Threads

structure Sound (threads : Threads Item capacity) : Prop where
  channel : threads.channel.Sound
  producer : ∀ call ∈ threads.producer, call.Fits threads.channel
  consumer : ∀ call ∈ threads.consumer, call.Fits threads.channel

namespace Sound

variable {threads : Threads Item capacity}

theorem create {ring : Ring Item capacity} (head : ring.head = 0)
    (tail : ring.tail = 0) : (Threads.create ring).Sound where
  channel := Channel.Sound.create head tail
  producer := by rintro call ⟨⟩
  consumer := by rintro call ⟨⟩

theorem beginPush (sound : threads.Sound) (item : Item) :
    (threads.beginPush item).Sound where
  channel := sound.channel
  producer := forall_mem_or sound.producer trivial
  consumer := sound.consumer

theorem beginConsumption (sound : threads.Sound) {call : Consumption Item}
    (fits : call.Fits threads.channel) :
    (threads.beginConsumption call).Sound where
  channel := sound.channel
  producer := sound.producer
  consumer := forall_mem_or sound.consumer fits

theorem produce (sound : threads.Sound) : threads.produce.Sound := by
  rw [Threads.produce]
  split
  case h_1 => exact sound
  case h_2 call going =>
    have kept := (sound.producer call going).step sound.channel
    exact ⟨kept.1, kept.2, fun next inside =>
      (sound.consumer next inside).produced call.step_produced⟩

theorem consume (sound : threads.Sound) : threads.consume.Sound := by
  rw [Threads.consume]
  split
  case h_1 => exact sound
  case h_2 call going =>
    have kept := (sound.consumer call going).step sound.channel
    exact ⟨kept.1, fun next inside =>
      (sound.producer next inside).consumed call.step_consumed, kept.2⟩

theorem step (sound : threads.Sound) (move : Move Item) :
    (threads.step move).Sound := by
  cases move with
  | push item => exact sound.beginPush item
  | produce => exact sound.produce
  | pop => exact sound.beginConsumption trivial
  | empty headFirst => exact sound.beginConsumption trivial
  | consume => exact sound.consume

theorem run (sound : threads.Sound) (moves : List (Move Item)) :
    (moves.foldl Threads.step threads).Sound := by
  induction moves generalizing threads with
  | nil => exact sound
  | cons move moves ih => exact ih (sound.step move)

/-- Each step is a step of the queue of the waiting items. -/
theorem fifoStep (sound : threads.Sound) (move : Move Item) :
    FifoStep (capacity - 1) threads.channel.waiting
      (threads.step move).channel.waiting := by
  cases move with
  | push item => exact .stay _
  | pop => exact .stay _
  | empty headFirst => exact .stay _
  | produce =>
      rw [Threads.step, Threads.produce]
      split
      case h_1 => exact .stay _
      case h_2 call going =>
        exact (sound.producer call going).fifoStep sound.channel
  | consume =>
      rw [Threads.step, Threads.consume]
      split
      case h_1 => exact .stay _
      case h_2 call going => exact (sound.consumer call going).fifoStep

end Sound

/-- What the two threads can have made of the ring some steps later. -/
def Reaches (threads after : Threads Item capacity) : Prop :=
  ∃ moves : List (Move Item), moves.foldl Threads.step threads = after

theorem Reaches.rfl {threads : Threads Item capacity} :
    threads.Reaches threads :=
  ⟨[], Eq.refl threads⟩

theorem Reaches.of_step {threads after : Threads Item capacity}
    (move : Move Item) (stepped : threads.step move = after) :
    threads.Reaches after :=
  ⟨[move], stepped⟩

theorem Reaches.sound {threads after : Threads Item capacity}
    (reaches : threads.Reaches after) (sound : threads.Sound) :
    after.Sound := by
  rcases reaches with ⟨moves, ⟨⟩⟩
  exact sound.run moves

end Threads

/-! ## Calls which nothing interrupts -/

theorem Channel.Sound.used_eq {channel : Channel Item capacity}
    (sound : channel.Sound) :
    channel.ring.used = channel.accepted.length - channel.popped.length := by
  have ordered := sound.length_le
  have bounded := sound.bounded
  have below := channel.ring.head_lt
  have tail : channel.ring.tail =
      (channel.ring.head +
        (channel.accepted.length - channel.popped.length)) % capacity := by
    rw [sound.tail_eq, sound.head_eq, Nat.mod_add_mod,
      Nat.add_sub_cancel' ordered]
  rw [Ring.wrap (by omega)] at tail
  rw [Ring.used_eq, tail]
  split_ifs <;> omega

/-- The ring contains what is waiting. -/
theorem Channel.Sound.contents_eq {channel : Channel Item capacity}
    (sound : channel.Sound) : channel.ring.contents = channel.waiting := by
  apply List.ext_getElem?
  intro offset
  rw [Ring.contents, sound.used_eq, Channel.waiting, List.getElem?_map,
    List.getElem?_drop]
  by_cases inside :
      offset < channel.accepted.length - channel.popped.length
  · rw [List.getElem?_range inside, Option.map_some, sound.head_eq,
      Nat.mod_add_mod, sound.slots_eq _ (Nat.le_add_right _ _) (by omega)]
  · rw [List.getElem?_eq_none (by simpa using inside),
      List.getElem?_eq_none (by omega)]
    rfl

namespace Threads

variable {threads : Threads Item capacity}

/-- Without other steps in between, a push is the push of the ring. -/
theorem push_alone (idle : threads.producer = none) (item : Item) :
    ([.push item, .produce, .produce, .produce, .produce].foldl
      Threads.step threads).channel.ring =
        (threads.channel.ring.push item).2 := by
  by_cases full :
      (threads.channel.ring.tail + 1) % capacity = threads.channel.ring.head
  · simp [Threads.step, Threads.beginPush, Threads.produce, idle, Push.step,
      Ring.push, full]
  · simp [Threads.step, Threads.beginPush, Threads.produce, idle, Push.step,
      Ring.push, full, Channel.writeSlot, Channel.storeTail]

theorem pop_alone (idle : threads.consumer = none) :
    ([.pop, .consume, .consume, .consume, .consume].foldl
      Threads.step threads).channel.ring = threads.channel.ring.pop.2 := by
  by_cases none : threads.channel.ring.head = threads.channel.ring.tail
  · simp [Threads.step, Threads.beginConsumption, Threads.consume, idle,
      Consumption.step, Pop.step, Ring.pop, none]
  · simp [Threads.step, Threads.beginConsumption, Threads.consume, idle,
      Consumption.step, Pop.step, Ring.pop, none, Channel.storeHead]

end Threads

end Spsc

end Windmi.Library
