import Windmi.Core.StatusQueue
import Windmi.Library.DropOldest
import Windmi.Library.Runs

/-!
# The status queue, one call after another

Calls of `push`, `pop` and `latest` which do not overlap.  The queue is then
one of 31 snapshots that drops the oldest one, as long as no reader comes while
the snapshots that wait lie on both sides of the place where the 32-bit
counters begin again: `pop` and `latest` compare the counters themselves, where
`push` takes their difference.
-/

namespace Windmi.Core

open Windmi.Library

namespace StatusQueue

/-! ## Calls without interruption -/

def push (item : StatusSnapshot) (queue : StatusQueue) : StatusQueue :=
  let writeIdx := queue.writeIndex
  let queue := queue.storeWriteIndex (word (writeIdx + 1))
  let queue := queue.writeSlot (writeIdx % capacity) item
  let queue := queue.storeTail (word (writeIdx + 1))
  if wordSub (word (writeIdx + 1)) queue.head > capacity - 1 then
    queue.trim (wordSub (word (writeIdx + 1)) (capacity - 1))
  else
    queue.complete

def pop (queue : StatusQueue) : StatusQueue × Option Numbered :=
  if queue.head ≥ queue.tail then
    (queue, none)
  else
    let item := queue.slots (queue.head % capacity)
    (queue.storeHead (word (queue.head + 1)) item, some item)

def latest (queue : StatusQueue) : Option Numbered :=
  if queue.head ≥ queue.tail then none
  else some (queue.slots ((queue.tail - 1) % capacity))

theorem produce_call {queue next : StatusQueue} {call : Push}
    {after : Option Push} (steps : call.step queue = (next, after))
    (consumer : Option Reading) :
    Threads.step ⟨queue, some call, consumer⟩ .produce =
      ⟨next, after, consumer⟩ := by
  show Threads.mk (call.step queue).1 (call.step queue).2 consumer = _
  rw [steps]

theorem consume_call (queue : StatusQueue) (producer : Option Push)
    (call : Pop) :
    Threads.step ⟨queue, producer, some (.popping call)⟩ .consume =
      ⟨(call.step queue).1, producer,
        (call.step queue).2.getLeft?.map .popping⟩ :=
  rfl

theorem consume_idle (queue : StatusQueue) (producer : Option Push) :
    Threads.step ⟨queue, producer, none⟩ .consume = ⟨queue, producer, none⟩ :=
  rfl

/-- Undisturbed, a push leaves what its steps lead to. -/
theorem push_undisturbed (item : StatusSnapshot) (queue : StatusQueue)
    (consumer : Option Reading) :
    (List.replicate 5 Move.produce).foldl Threads.step
        ⟨queue, some (.start item), consumer⟩ =
      ⟨queue.push item, none, consumer⟩ := by
  obtain ⟨reserved, reservedEq⟩ : ∃ reserved, reserved =
    queue.storeWriteIndex (word (queue.writeIndex + 1)) := ⟨_, rfl⟩
  obtain ⟨written, writtenEq⟩ : ∃ written, written =
    reserved.writeSlot (queue.writeIndex % capacity) item := ⟨_, rfl⟩
  obtain ⟨stored, storedEq⟩ : ∃ stored, stored =
    written.storeTail (word (queue.writeIndex + 1)) := ⟨_, rfl⟩
  have reserves : (Push.start item).step queue =
      (reserved, some (.reserved item queue.writeIndex)) := by
    rw [reservedEq]
    rfl
  have writes : (Push.reserved item queue.writeIndex).step reserved =
      (written, some (.written queue.writeIndex)) := by
    rw [writtenEq]
    rfl
  have stores : (Push.written queue.writeIndex).step written =
      (stored, some (.stored queue.writeIndex)) := by
    rw [storedEq]
    rfl
  have pushed : queue.push item =
      if wordSub (word (queue.writeIndex + 1)) stored.head > capacity - 1 then
        stored.trim (wordSub (word (queue.writeIndex + 1)) (capacity - 1))
      else
        stored.complete := by
    rw [storedEq, writtenEq, reservedEq]
    rfl
  rw [List.replicate_succ, List.foldl_cons, produce_call reserves,
    List.replicate_succ, List.foldl_cons, produce_call writes,
    List.replicate_succ, List.foldl_cons, produce_call stores,
    List.replicate_succ, List.foldl_cons, pushed]
  by_cases full :
      wordSub (word (queue.writeIndex + 1)) stored.head > capacity - 1
  · have trims : (Push.stored queue.writeIndex).step stored =
        (stored, some (.trimming queue.writeIndex)) := if_pos full
    rw [produce_call trims, if_pos full, List.replicate_succ,
      List.foldl_cons]
    exact produce_call rfl consumer
  · have completes : (Push.stored queue.writeIndex).step stored =
        (stored.complete, none) := if_neg full
    rw [produce_call completes, if_neg full]
    rfl

theorem pop_undisturbed (queue : StatusQueue) (producer : Option Push) :
    (List.replicate 4 Move.consume).foldl Threads.step
        ⟨queue, producer, some (.popping .start)⟩ =
      ⟨queue.pop.1, producer, none⟩ := by
  simp only [List.replicate_succ, List.replicate_zero, List.foldl_cons,
    List.foldl_nil, consume_call, Pop.step, Sum.getLeft?, Option.map_some]
  rw [pop]
  split
  case isTrue => simp only [consume_idle, Option.map_none]
  case isFalse =>
    simp only [consume_call, Pop.step, Option.map_some, Option.map_none,
      Sum.getLeft?]

theorem latest_undisturbed (queue : StatusQueue) :
    Latest.step queue .start = .inl (.loadedTail queue.tail) ∧
      ((∃ next, Latest.step queue (.loadedTail queue.tail) = .inl next ∧
          Latest.step queue next = .inr queue.latest) ∨
        Latest.step queue (.loadedTail queue.tail) = .inr queue.latest) := by
  refine ⟨rfl, ?_⟩
  simp only [Latest.step, latest]
  split
  · exact Or.inr rfl
  · exact Or.inl ⟨.found queue.tail, rfl, rfl⟩

/-! ## Answers -/

open DropOldest (Call Answer Queue Holds answered)

def serve (queue : StatusQueue) :
    Call StatusSnapshot → StatusQueue × Answer StatusSnapshot
  | .push item => (queue.push item, .pushed)
  | .pop => (queue.pop.1, answered (queue.pop.2.map Numbered.snapshot))
  | .latest => (queue, answered (queue.latest.map Numbered.snapshot))

/-- What a sequence of calls returns. -/
def answers (queue : StatusQueue) :
    List (Call StatusSnapshot) → List (Answer StatusSnapshot)
  | [] => []
  | call :: calls =>
      (queue.serve call).2 :: answers (queue.serve call).1 calls

/-! ## The counters and the list -/

/-- The snapshots which the header says are kept. -/
def bound : Nat := capacity - 1

/--
The ring and its counters stand for the list of waiting snapshots, the oldest
of which has the given number.
-/
structure Represents (queue : StatusQueue) (start : Nat)
    (model : Queue StatusSnapshot) : Prop where
  total : start + model.items.length = model.pushes
  bounded : model.items.length ≤ bound
  writeIndex : queue.writeIndex = word model.pushes
  tail : queue.tail = word model.pushes
  head : queue.head = word start
  holds : Holds capacity (Numbered.snapshot ∘ queue.slots) start model.items

theorem create_represents : create.Represents 0 {} where
  total := rfl
  bounded := Nat.zero_le bound
  writeIndex := rfl
  tail := rfl
  head := rfl
  holds := fun _ inside => absurd inside (Nat.not_lt_zero _)

/--
A reader comes while the counters of the waiting snapshots do not wrap: there
are at most as many as pushes since the counters last were zero.
-/
def ReadsAhead (model : Queue StatusSnapshot) :
    Call StatusSnapshot → Prop
  | .push _ => True
  | _ => model.items.length ≤ model.pushes % 2 ^ 32

section

variable {queue : StatusQueue} {start : Nat} {model : Queue StatusSnapshot}

theorem Represents.push (represents : queue.Represents start model)
    (item : StatusSnapshot) :
    ∃ next, (queue.push item).Represents next
      (DropOldest.step bound model (.push item)) := by
  have total := represents.total
  have bounded : model.items.length ≤ 31 := represents.bounded
  have slot : queue.writeIndex % capacity =
      (start + model.items.length) % capacity := by
    rw [represents.writeIndex, total, word, capacity]
    omega
  have advanced : word (queue.writeIndex + 1) = word (model.pushes + 1) := by
    rw [represents.writeIndex, word, word, word]
    omega
  have distance : wordSub (word (model.pushes + 1)) queue.head =
      model.items.length + 1 := by
    rw [represents.head, wordSub, word, word]
    omega
  have written : Holds capacity
      (Numbered.snapshot ∘ Function.update queue.slots
        ((start + model.items.length) % capacity) ⟨queue.writes, item⟩)
      start (model.items ++ [item]) := by
    rw [Function.comp_update]
    exact represents.holds.push (by rw [capacity]; omega) item
  have length : (model.items ++ [item]).length = model.items.length + 1 :=
    List.length_append
  have pushed : DropOldest.step bound model (.push item) =
      { items := DropOldest.trim bound (model.items ++ [item])
        pushes := model.pushes + 1 } := rfl
  simp only [StatusQueue.push, storeWriteIndex, writeSlot, storeTail, slot,
    advanced, distance]
  rw [pushed]
  by_cases full : model.items.length + 1 > capacity - 1
  · have many : model.items.length = 31 := by
      rw [capacity] at full
      omega
    have trimmed : DropOldest.trim bound (model.items ++ [item]) =
        (model.items ++ [item]).drop 1 :=
      DropOldest.trim_of_full (by rw [length, many]; rfl)
    have left : ((model.items ++ [item]).drop 1).length = 31 := by
      rw [List.length_drop, length, many]
    have behind : wordSub (word (model.pushes + 1)) (capacity - 1) =
        word (start + 1) := by
      rw [wordSub, word, word, capacity]
      omega
    rw [if_pos full, trimmed]
    exact ⟨start + 1, {
      total := by
        show start + 1 + ((model.items ++ [item]).drop 1).length =
          model.pushes + 1
        omega
      bounded := left.le
      writeIndex := rfl
      tail := rfl
      head := behind
      holds := written.drop 1 }⟩
  · have room : (model.items ++ [item]).length ≤ bound := by
      rw [length, bound]
      omega
    rw [if_neg full, DropOldest.trim_of_room room]
    exact ⟨start, {
      total := by
        show start + (model.items ++ [item]).length = model.pushes + 1
        omega
      bounded := room
      writeIndex := rfl
      tail := rfl
      head := represents.head
      holds := written }⟩

/-- The counters compare as they should unless they lie around a wrap. -/
theorem Represents.missing_iff (represents : queue.Represents start model) :
    queue.head ≥ queue.tail ↔
      model.items = [] ∨ model.pushes % 2 ^ 32 < model.items.length := by
  have total := represents.total
  have bounded : model.items.length ≤ 31 := represents.bounded
  rw [represents.head, represents.tail, word, word,
    ← List.length_eq_zero_iff]
  omega

theorem Represents.found (represents : queue.Represents start model)
    (found : ¬ queue.head ≥ queue.tail) :
    model.items.head? =
        some (queue.slots (queue.head % capacity)).snapshot ∧
      model.items.getLast? =
        some (queue.slots ((queue.tail - 1) % capacity)).snapshot := by
  have total := represents.total
  rw [represents.missing_iff, not_or] at found
  rcases found with ⟨nonempty, ahead⟩
  have positive := List.length_pos_iff.mpr nonempty
  have first : queue.head % capacity = start % capacity := by
    rw [represents.head, word, capacity]
    omega
  have last : (queue.tail - 1) % capacity =
      (start + (model.items.length - 1)) % capacity := by
    rw [represents.tail, word, capacity]
    omega
  rw [first, last]
  exact ⟨represents.holds.head? nonempty, represents.holds.getLast? nonempty⟩

theorem Represents.pop (represents : queue.Represents start model)
    (found : ¬ queue.head ≥ queue.tail) :
    queue.pop.1.Represents (start + 1) (DropOldest.step bound model .pop) := by
  have nonempty : model.items ≠ [] := fun none =>
    found (represents.missing_iff.mpr (Or.inl none))
  have positive := List.length_pos_iff.mpr nonempty
  have total := represents.total
  have bounded := represents.bounded
  have popped : DropOldest.step bound model .pop =
      { items := model.items.drop 1, pushes := model.pushes } := by
    rw [List.drop_one]
    rfl
  have length : (model.items.drop 1).length = model.items.length - 1 :=
    List.length_drop
  have advanced : word (queue.head + 1) = word (start + 1) := by
    rw [represents.head, word, word, word]
    omega
  rw [popped, StatusQueue.pop, if_neg found]
  exact {
    total := by
      show start + 1 + (model.items.drop 1).length = model.pushes
      omega
    bounded := by
      show (model.items.drop 1).length ≤ bound
      omega
    writeIndex := represents.writeIndex
    tail := represents.tail
    head := advanced
    holds := represents.holds.drop 1 }

/-- A call which does not read around a wrap is answered like the list does. -/
theorem Represents.serve (represents : queue.Represents start model)
    {call : Call StatusSnapshot} (ahead : ReadsAhead model call) :
    (queue.serve call).2 = (DropOldest.serve bound model call).2 ∧
      ∃ next, (queue.serve call).1.Represents next
        (DropOldest.step bound model call) := by
  cases call with
  | push item => exact ⟨rfl, represents.push item⟩
  | pop =>
      by_cases missed : queue.head ≥ queue.tail
      · have none : model.items = [] :=
          (represents.missing_iff.mp missed).resolve_right
            (Nat.not_lt.mpr ahead)
        have same : DropOldest.step bound model .pop = model := by
          rw [DropOldest.step, DropOldest.serve, none]
          exact congrArg (fun items => Queue.mk items model.pushes) none.symm
        rw [same]
        simp only [StatusQueue.serve, StatusQueue.pop, if_pos missed,
          DropOldest.serve, none]
        exact ⟨rfl, start, represents⟩
      · have first := (represents.found missed).1
        refine ⟨?_, start + 1, represents.pop missed⟩
        simp only [StatusQueue.serve, StatusQueue.pop, if_neg missed,
          DropOldest.serve, first]
        rfl
  | latest =>
      refine ⟨?_, start, represents⟩
      by_cases missed : queue.head ≥ queue.tail
      · have none : model.items = [] :=
          (represents.missing_iff.mp missed).resolve_right
            (Nat.not_lt.mpr ahead)
        simp only [StatusQueue.serve, StatusQueue.latest, if_pos missed,
          DropOldest.serve, none]
        rfl
      · have last := (represents.found missed).2
        simp only [StatusQueue.serve, StatusQueue.latest, if_neg missed,
          DropOldest.serve, last]
        rfl

theorem missed_ne_found (item : StatusSnapshot) :
    answered (Option.map Numbered.snapshot none) ≠ answered (some item) := by
  intro same
  cases same

/-- A reader that comes around a wrap finds nothing, though there is. -/
theorem Represents.misses (represents : queue.Represents start model)
    {call : Call StatusSnapshot} (behind : ¬ ReadsAhead model call) :
    (queue.serve call).2 ≠ (DropOldest.serve bound model call).2 := by
  cases call with
  | push item => exact absurd trivial behind
  | pop =>
      have fewer : model.pushes % 2 ^ 32 < model.items.length :=
        Nat.not_le.mp behind
      have missed := represents.missing_iff.mpr (Or.inr fewer)
      cases known : model.items with
      | nil =>
          rw [known] at fewer
          exact absurd fewer (Nat.not_lt_zero _)
      | cons item items =>
          simp only [StatusQueue.serve, StatusQueue.pop, if_pos missed,
            DropOldest.serve, known, List.head?_cons]
          exact missed_ne_found item
  | latest =>
      have fewer : model.pushes % 2 ^ 32 < model.items.length :=
        Nat.not_le.mp behind
      have missed := represents.missing_iff.mpr (Or.inr fewer)
      cases known : model.items.getLast? with
      | none =>
          rw [List.getLast?_eq_none_iff.mp known] at fewer
          exact absurd fewer (Nat.not_lt_zero _)
      | some item =>
          simp only [StatusQueue.serve, StatusQueue.latest, if_pos missed,
            DropOldest.serve, known]
          exact missed_ne_found item

theorem Represents.answers_iff (represents : queue.Represents start model)
    (calls : List (Call StatusSnapshot)) :
    queue.answers calls = DropOldest.answers bound model calls ↔
      Throughout (DropOldest.step bound) ReadsAhead model calls := by
  induction calls generalizing queue start model with
  | nil => exact iff_of_true rfl (throughout_nil model)
  | cons call calls ih =>
      rw [answers, DropOldest.answers, List.cons.injEq, throughout_cons]
      by_cases ahead : ReadsAhead model call
      · rcases represents.serve ahead with ⟨same, next, represents⟩
        rw [and_iff_right same, and_iff_right ahead]
        exact ih represents
      · exact iff_of_false (fun equal => represents.misses ahead equal.1)
          fun all => ahead all.1

end

/-- A multiple of `2 ^ 32` pushes hides the snapshots that wait. -/
theorem answers_ne_of_wrapped {count : Nat} (some : 0 < count)
    (wrapped : count % 2 ^ 32 = 0) (item : StatusSnapshot) :
    create.answers (List.replicate count (.push item) ++ [.pop]) ≠
      DropOldest.answers bound {}
        (List.replicate count (.push item) ++ [.pop]) := by
  intro equal
  have all := (create_represents.answers_iff _).mp equal
  have ahead : List.length _ ≤ _ % 2 ^ 32 := all _ .pop [] rfl
  rcases DropOldest.pushes_foldl bound item count {} with ⟨pushes, length⟩
  have pushed := pushes.trans (Nat.zero_add count)
  have waiting := (length (Nat.zero_le bound)).trans
    (congrArg (min bound) (Nat.zero_add count))
  rw [pushed, waiting, wrapped] at ahead
  have positive : 0 < min bound count :=
    Nat.lt_min.mpr ⟨by decide, some⟩
  omega

/--
The queue answers like the list of at most 31 snapshots if and only if no
reader comes while more snapshots wait than there were pushes since the last
multiple of `2 ^ 32`.
-/
theorem statusQueue_drops_oldest_iff (calls : List (Call StatusSnapshot)) :
    create.answers calls = DropOldest.answers bound {} calls ↔
      Throughout (DropOldest.step bound) ReadsAhead {} calls :=
  create_represents.answers_iff calls

/-- After `2 ^ 32` pushes a pop finds nothing, where 31 snapshots wait. -/
theorem wrapped_queue_misses :
    create.answers (List.replicate (2 ^ 32) (.push {}) ++ [.pop]) ≠
      DropOldest.answers bound {}
        (List.replicate (2 ^ 32) (.push {}) ++ [.pop]) :=
  answers_ne_of_wrapped (by decide) (by decide) {}

end StatusQueue

end Windmi.Core
