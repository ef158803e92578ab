import Windmi.Core.StatusQueue
import Windmi.Library.Runs

/-!
# What each step keeps of the status queue

A slot always holds the newest snapshot written to it, and whatever lies behind
the head has been popped or dropped.  Every step of either thread keeps this,
and what the other thread has loaded stays good enough.
-/

namespace Windmi.Core

open Windmi.Library

namespace StatusQueue

/-! ## The invariant -/

def Popped (queue : StatusQueue) (number : Nat) : Prop :=
  ∃ item ∈ queue.popped, item.number = number

/-- A push has stored the head past a snapshot, or written its slot again. -/
def Dropped (queue : StatusQueue) (number : Nat) : Prop :=
  number < queue.trimmed ∨ number + capacity < queue.writes

def Gone (queue : StatusQueue) (number : Nat) : Prop :=
  queue.Popped number ∨ queue.Dropped number

/-- How far a push has come, told by the counts. -/
def Producing (queue : StatusQueue) : Option Push → Prop
  | none =>
      queue.writeIndex = queue.pushes ∧ queue.writes = queue.pushes ∧
        queue.tail = queue.pushes ∧ queue.completed = queue.pushes
  | some (.start _) =>
      queue.writeIndex + 1 = queue.pushes ∧
        queue.writes + 1 = queue.pushes ∧ queue.tail + 1 = queue.pushes ∧
          queue.completed + 1 = queue.pushes
  | some (.reserved _ writeIdx) =>
      writeIdx + 1 = queue.pushes ∧ queue.writeIndex = queue.pushes ∧
        queue.writes + 1 = queue.pushes ∧ queue.tail + 1 = queue.pushes ∧
          queue.completed + 1 = queue.pushes
  | some (.written writeIdx) =>
      writeIdx + 1 = queue.pushes ∧ queue.writeIndex = queue.pushes ∧
        queue.writes = queue.pushes ∧ queue.tail + 1 = queue.pushes ∧
          queue.completed + 1 = queue.pushes
  | some (.stored writeIdx) =>
      writeIdx + 1 = queue.pushes ∧ queue.writeIndex = queue.pushes ∧
        queue.writes = queue.pushes ∧ queue.tail = queue.pushes ∧
          queue.completed + 1 = queue.pushes
  | some (.trimming writeIdx) =>
      writeIdx + 1 = queue.pushes ∧ queue.writeIndex = queue.pushes ∧
        queue.writes = queue.pushes ∧ queue.tail = queue.pushes ∧
          queue.completed + 1 = queue.pushes ∧ capacity ≤ queue.pushes

structure Sound (queue : StatusQueue) : Prop where
  head_le : queue.head ≤ queue.tail
  newest : ∀ index < queue.writes,
    index ≤ (queue.slots (index % capacity)).number
  fresh : ∀ index < queue.writes, queue.writes ≤ index + capacity →
    (queue.slots (index % capacity)).number = index
  gone : ∀ number < queue.head, queue.Gone number

/-- What a pop or a call of `latest` has loaded. -/
def Reading.Fits (queue : StatusQueue) : Reading → Prop
  | .popping .start => True
  | .popping (.loadedHead head) => ∀ number < head, queue.Gone number
  | .popping (.found head) =>
      head < queue.tail ∧ ∀ number < head, queue.Gone number
  | .popping (.copied head item) =>
      head < queue.tail ∧ (∀ number < head, queue.Gone number) ∧
        (item.number = head ∨ queue.Dropped head)
  | .viewing completed .start => completed ≤ queue.completed
  | .viewing completed (.loadedTail tail) =>
      completed ≤ tail ∧ tail ≤ queue.tail
  | .viewing completed (.found tail) =>
      completed ≤ tail ∧ tail ≤ queue.tail ∧ 0 < tail

/-- What a step of the producer cannot take back. -/
structure Advances (queue after : StatusQueue) : Prop where
  tail_le : queue.tail ≤ after.tail
  completed_le : queue.completed ≤ after.completed
  writes_le : queue.writes ≤ after.writes
  trimmed_le : queue.trimmed ≤ after.trimmed
  popped_eq : after.popped = queue.popped

section Frames

variable {queue after : StatusQueue}

theorem Advances.dropped (advances : queue.Advances after) {number : Nat}
    (dropped : queue.Dropped number) : after.Dropped number := by
  rcases dropped with trimmed | overwritten
  · exact Or.inl (Nat.lt_of_lt_of_le trimmed advances.trimmed_le)
  · exact Or.inr (Nat.lt_of_lt_of_le overwritten advances.writes_le)

theorem Advances.gone (advances : queue.Advances after) {number : Nat}
    (gone : queue.Gone number) : after.Gone number := by
  rcases gone with popped | dropped
  · refine Or.inl ?_
    rw [Popped, advances.popped_eq]
    exact popped
  · exact Or.inr (advances.dropped dropped)

theorem Reading.Fits.advance {call : Reading} (fits : call.Fits queue)
    (advances : queue.Advances after) : call.Fits after := by
  have further {tail : Nat} (below : tail ≤ queue.tail) : tail ≤ after.tail :=
    below.trans advances.tail_le
  cases call with
  | popping call =>
      cases call with
      | start => trivial
      | loadedHead head =>
          exact fun number below => advances.gone (fits number below)
      | found head =>
          exact ⟨further fits.1, fun number below =>
            advances.gone (fits.2 number below)⟩
      | copied head item =>
          exact ⟨further fits.1, fun number below =>
            advances.gone (fits.2.1 number below),
            fits.2.2.imp_right advances.dropped⟩
  | viewing completed call =>
      cases call with
      | start => exact Nat.le_trans fits advances.completed_le
      | loadedTail tail => exact ⟨fits.1, further fits.2⟩
      | found tail => exact ⟨fits.1, further fits.2.1, fits.2.2⟩

end Frames

/-! ## Steps of a push -/

section Push

variable {queue : StatusQueue}

theorem word_of_lt {value : Nat} (small : value < 2 ^ 32) :
    word value = value :=
  Nat.mod_eq_of_lt small

theorem wordSub_of_le {left right : Nat} (ordered : right ≤ left)
    (small : left < 2 ^ 32) : wordSub left right = left - right := by
  rw [wordSub]
  omega

/-- The next snapshot goes to the slot behind all others. -/
theorem Sound.writeSlot (sound : queue.Sound) (item : StatusSnapshot) :
    (queue.writeSlot (queue.writes % capacity) item).Sound where
  head_le := sound.head_le
  newest := by
    intro index (below : index < queue.writes + 1)
    show index ≤
      (Function.update queue.slots (queue.writes % capacity)
        ⟨queue.writes, item⟩ (index % capacity)).number
    by_cases same : index % capacity = queue.writes % capacity
    · rw [same, Function.update_self]
      exact Nat.le_of_lt_succ below
    · rw [Function.update_of_ne same]
      have older : index ≠ queue.writes := by
        rintro rfl
        exact same rfl
      exact sound.newest index (by omega)
  fresh := by
    intro index (below : index < queue.writes + 1)
      (recent : queue.writes + 1 ≤ index + capacity)
    show (Function.update queue.slots (queue.writes % capacity)
        ⟨queue.writes, item⟩ (index % capacity)).number = index
    by_cases same : index % capacity = queue.writes % capacity
    · rw [same, Function.update_self]
      show queue.writes = index
      rw [capacity] at same recent
      omega
    · rw [Function.update_of_ne same]
      have older : index ≠ queue.writes := by
        rintro rfl
        exact same rfl
      exact sound.fresh index (by omega) (by omega)
  gone := by
    intro number below
    rcases sound.gone number below with popped | trimmed | overwritten
    · exact Or.inl popped
    · exact Or.inr (Or.inl trimmed)
    · exact Or.inr (Or.inr (Nat.lt_succ_of_lt overwritten))

theorem Sound.storeTail (sound : queue.Sound) {tail : Nat}
    (grown : queue.tail ≤ tail) : (queue.storeTail tail).Sound where
  head_le := sound.head_le.trans grown
  newest := sound.newest
  fresh := sound.fresh
  gone := sound.gone

/-- What a push passes with the head is dropped unless it was popped. -/
theorem Sound.trim (sound : queue.Sound) {head : Nat}
    (within : head ≤ queue.tail) : (queue.trim head).Sound where
  head_le := within
  newest := sound.newest
  fresh := sound.fresh
  gone := fun _ below =>
    Or.inr (Or.inl (Nat.lt_of_lt_of_le below (Nat.le_max_right _ _)))

theorem Push.step_spec {call : Push} (sound : queue.Sound)
    (producing : queue.Producing (some call))
    (few : queue.pushes < 2 ^ 32) :
    (call.step queue).1.Sound ∧
      (call.step queue).1.Producing (call.step queue).2 ∧
        queue.Advances (call.step queue).1 := by
  cases call with
  | start item =>
      rcases producing with ⟨index, writes, tail, completed⟩
      have next : word (queue.writeIndex + 1) = queue.pushes := by
        rw [index, word_of_lt few]
      rw [Push.step, next]
      exact ⟨⟨sound.head_le, sound.newest, sound.fresh, sound.gone⟩,
        ⟨index, rfl, writes, tail, completed⟩,
        ⟨le_rfl, le_rfl, le_rfl, le_rfl, rfl⟩⟩
  | reserved item writeIdx =>
      rcases producing with ⟨reserved, index, writes, tail, completed⟩
      have slot : writeIdx = queue.writes := by
        omega
      rw [Push.step, slot]
      exact ⟨sound.writeSlot item, ⟨writes, index, writes, tail, completed⟩,
        ⟨le_rfl, le_rfl, Nat.le_succ _, le_rfl, rfl⟩⟩
  | written writeIdx =>
      rcases producing with ⟨reserved, index, writes, tail, completed⟩
      have next : word (writeIdx + 1) = queue.pushes := by
        rw [reserved, word_of_lt few]
      have grown : queue.tail ≤ queue.pushes := by
        omega
      rw [Push.step, next]
      exact ⟨sound.storeTail grown, ⟨reserved, index, writes, rfl, completed⟩,
        ⟨grown, le_rfl, le_rfl, le_rfl, rfl⟩⟩
  | stored writeIdx =>
      rcases producing with ⟨reserved, index, writes, tail, completed⟩
      have behind : queue.head ≤ queue.pushes := by
        rw [← tail]
        exact sound.head_le
      have lag : wordSub (word (writeIdx + 1)) queue.head =
          queue.pushes - queue.head := by
        rw [reserved, word_of_lt few, wordSub_of_le behind few]
      rw [Push.step, lag]
      split
      case isTrue far =>
        have full : capacity ≤ queue.pushes := by
          omega
        exact ⟨sound, ⟨reserved, index, writes, tail, completed, full⟩,
          ⟨le_rfl, le_rfl, le_rfl, le_rfl, rfl⟩⟩
      case isFalse near =>
        exact ⟨⟨sound.head_le, sound.newest, sound.fresh, sound.gone⟩,
          ⟨index, writes, tail, completed⟩,
          ⟨le_rfl, Nat.le_succ _, le_rfl, le_rfl, rfl⟩⟩
  | trimming writeIdx =>
      rcases producing with ⟨reserved, index, writes, tail, completed, full⟩
      have next : wordSub (word (writeIdx + 1)) (capacity - 1) =
          queue.tail - (capacity - 1) := by
        rw [reserved, word_of_lt few, wordSub_of_le (by omega) few, tail]
      rw [Push.step, next]
      exact ⟨sound.trim (Nat.sub_le _ _), ⟨index, writes, tail, completed⟩,
        ⟨le_rfl, Nat.le_succ _, le_rfl, Nat.le_max_left _ _, rfl⟩⟩

theorem Push.step_pushes (call : Push) :
    (call.step queue).1.pushes = queue.pushes := by
  cases call with
  | start item =>
      rw [Push.step]
      exact storeWriteIndex_pushes _ _
  | reserved item writeIdx =>
      rw [Push.step]
      exact writeSlot_pushes _ _ _
  | written writeIdx =>
      rw [Push.step]
      exact storeTail_pushes _ _
  | stored writeIdx =>
      rw [Push.step]
      split
      · rfl
      · exact complete_pushes _
  | trimming writeIdx =>
      rw [Push.step]
      exact trim_pushes _ _

end Push

/-! ## Steps of a reader -/

section Reader

variable {queue : StatusQueue}

/-- A pop which returns the snapshot at the head, or finds it dropped. -/
theorem Sound.storeHead (sound : queue.Sound) {head : Nat} {item : Numbered}
    (below : head < queue.tail)
    (gone : ∀ number < head, queue.Gone number)
    (copied : item.number = head ∨ queue.Dropped head) :
    (queue.storeHead (head + 1) item).Sound where
  head_le := below
  newest := sound.newest
  fresh := sound.fresh
  gone := by
    intro number (passed : number < head + 1)
    by_cases last : number = head
    · subst last
      rcases copied with same | dropped
      · exact Or.inl ⟨item, List.mem_append_right _ List.mem_cons_self, same⟩
      · exact Or.inr dropped
    · rcases gone number (by omega) with ⟨old, inside, same⟩ | dropped
      · exact Or.inl ⟨old, List.mem_append_left _ inside, same⟩
      · exact Or.inr dropped

/-- A reader changes nothing that the producer relies on. -/
theorem Reading.step_producing {call : Reading} {producer : Option Push}
    (producing : queue.Producing producer) :
    (call.step queue).1.Producing producer := by
  cases call with
  | viewing completed call => exact producing
  | popping call =>
      cases call with
      | start => exact producing
      | found head => exact producing
      | loadedHead head =>
          rw [Reading.step, Pop.step]
          split <;> exact producing
      | copied head item =>
          rcases producer with _ | _ | _ | _ | _ | _ <;> exact producing

theorem Reading.step_pushes (call : Reading) :
    (call.step queue).1.pushes = queue.pushes := by
  cases call with
  | viewing completed call => rfl
  | popping call =>
      cases call with
      | loadedHead head =>
          rw [Reading.step, Pop.step]
          split <;> rfl
      | start => rfl
      | found head => rfl
      | copied head item =>
          rw [Reading.step, Pop.step]
          exact storeHead_pushes _ _ _

/-- The slot of a snapshot holds it as long as it has not been dropped. -/
theorem Sound.slot_eq_or_dropped (sound : queue.Sound) {head : Nat}
    (below : head < queue.writes) :
    (queue.slots (head % capacity)).number = head ∨ queue.Dropped head := by
  by_cases recent : queue.writes ≤ head + capacity
  · exact Or.inl (sound.fresh head below recent)
  · exact Or.inr (Or.inr (by omega))

theorem Producing.tail_le {producer : Option Push}
    (producing : queue.Producing producer) :
    queue.completed ≤ queue.tail ∧ queue.tail ≤ queue.writes ∧
      queue.writes ≤ queue.pushes := by
  rcases producer with _ | call
  · rw [Producing] at producing
    omega
  · cases call <;> rw [Producing] at producing <;> omega

theorem Reading.step_spec {call : Reading} {producer : Option Push}
    (sound : queue.Sound) (producing : queue.Producing producer)
    (fits : call.Fits queue) (few : queue.pushes < 2 ^ 32) :
    (call.step queue).1.Sound ∧
      ∀ next ∈ (call.step queue).2, next.Fits (call.step queue).1 := by
  rcases producing.tail_le with ⟨completed, tail, writes⟩
  cases call with
  | popping call =>
      cases call with
      | start =>
          refine ⟨sound, ?_⟩
          rintro next ⟨⟩
          exact sound.gone
      | loadedHead head =>
          rw [Reading.step, Pop.step]
          split
          case isTrue none =>
            refine ⟨sound, ?_⟩
            rintro next ⟨⟩
          case isFalse some =>
            refine ⟨sound, ?_⟩
            rintro next ⟨⟩
            exact ⟨Nat.lt_of_not_le some, fits⟩
      | found head =>
          refine ⟨sound, ?_⟩
          rintro next ⟨⟩
          exact ⟨fits.1, fits.2,
            sound.slot_eq_or_dropped (Nat.lt_of_lt_of_le fits.1 tail)⟩
      | copied head item =>
          rcases fits with ⟨below, gone, copied⟩
          have next : word (head + 1) = head + 1 :=
            word_of_lt (by omega)
          refine ⟨?_, ?_⟩
          · rw [Reading.step, Pop.step, next]
            exact sound.storeHead below gone copied
          · rintro next ⟨⟩
  | viewing before call =>
      refine ⟨sound, ?_⟩
      cases call with
      | start =>
          rintro next ⟨⟩
          exact ⟨Nat.le_trans fits completed, le_rfl⟩
      | loadedTail loaded =>
          rw [Reading.step, Latest.step]
          split
          case isTrue none => rintro next ⟨⟩
          case isFalse some =>
            rintro next ⟨⟩
            exact ⟨fits.1, fits.2,
              Nat.lt_of_le_of_lt (Nat.zero_le _) (Nat.lt_of_not_le some)⟩
      | found loaded => rintro next ⟨⟩

end Reader

/-! ## Runs -/

structure Threads.Sound (threads : Threads) : Prop where
  queue : threads.queue.Sound
  producer : threads.queue.Producing threads.producer
  consumer : ∀ call ∈ threads.consumer, call.Fits threads.queue

namespace Threads

variable {threads : Threads}

theorem pushes_le_step (threads : Threads) (move : Move) :
    threads.queue.pushes ≤ (threads.step move).queue.pushes := by
  cases move with
  | pop => exact le_rfl
  | latest => exact le_rfl
  | push item =>
      rw [step, beginPush]
      split
      · exact Nat.le_succ _
      · exact le_rfl
  | produce =>
      rw [step, produce]
      split
      · exact le_rfl
      case h_2 call going => exact (Push.step_pushes call).ge
  | consume =>
      rw [step, consume]
      split
      · exact le_rfl
      case h_2 call going => exact (Reading.step_pushes call).ge

namespace Sound

theorem create : Threads.create.Sound where
  queue := {
    head_le := le_rfl
    newest := by rintro index ⟨⟩
    fresh := by rintro index ⟨⟩
    gone := by rintro number ⟨⟩ }
  producer := ⟨rfl, rfl, rfl, rfl⟩
  consumer := by rintro call ⟨⟩

theorem beginPush (sound : threads.Sound) (item : StatusSnapshot) :
    (threads.beginPush item).Sound := by
  rw [Threads.beginPush]
  split
  case h_1 idle =>
    have counts := sound.producer
    rw [idle] at counts
    rcases counts with ⟨index, writes, tail, completed⟩
    have queue := sound.queue
    exact {
      queue := ⟨queue.head_le, queue.newest, queue.fresh, queue.gone⟩
      producer := ⟨congrArg (· + 1) index, congrArg (· + 1) writes,
        congrArg (· + 1) tail, congrArg (· + 1) completed⟩
      consumer := fun call inside => (sound.consumer call inside).advance
        ⟨le_rfl, le_rfl, le_rfl, le_rfl, rfl⟩ }
  case h_2 => exact sound

theorem beginReading (sound : threads.Sound) {call : Reading}
    (fits : call.Fits threads.queue) : (threads.beginReading call).Sound where
  queue := sound.queue
  producer := sound.producer
  consumer := forall_mem_or sound.consumer fits

theorem produce (sound : threads.Sound)
    (few : threads.queue.pushes < 2 ^ 32) : threads.produce.Sound := by
  rw [Threads.produce]
  split
  case h_1 => exact sound
  case h_2 call going =>
    have producing := sound.producer
    rw [going] at producing
    rcases Push.step_spec sound.queue producing few with
      ⟨queue, producer, advances⟩
    exact ⟨queue, producer, fun next inside =>
      (sound.consumer next inside).advance advances⟩

theorem consume (sound : threads.Sound)
    (few : threads.queue.pushes < 2 ^ 32) : threads.consume.Sound := by
  rw [Threads.consume]
  split
  case h_1 => exact sound
  case h_2 call going =>
    rcases Reading.step_spec sound.queue sound.producer
      (sound.consumer call going) few with ⟨queue, consumer⟩
    exact ⟨queue, Reading.step_producing sound.producer, consumer⟩

theorem step (sound : threads.Sound) (few : threads.queue.pushes < 2 ^ 32)
    (move : Move) : (threads.step move).Sound := by
  cases move with
  | push item => exact sound.beginPush item
  | produce => exact sound.produce few
  | pop => exact sound.beginReading trivial
  | latest =>
      exact sound.beginReading (Nat.le_refl threads.queue.completed)
  | consume => exact sound.consume few

end Sound

end Threads

end StatusQueue

end Windmi.Core
