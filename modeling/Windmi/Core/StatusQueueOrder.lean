import Windmi.Core.StatusQueueSteps

/-!
# What readers of the status queue can rely on

All interleavings let `latest` account for what was pushed before.  They do not
all keep the pops in order: a pop may copy a slot which was written again after
it loaded the head, and a push may store a head which pops have passed since it
loaded the head.
-/

namespace Windmi.Core

open Windmi.Library

namespace StatusQueue

/-! ## The order of the pops -/

def InOrder (queue : StatusQueue) : Prop :=
  (queue.popped.map Numbered.number).Pairwise (· < ·)

/-- All snapshots popped so far lie before this position. -/
def PoppedBefore (queue : StatusQueue) (position : Nat) : Prop :=
  ∀ item ∈ queue.popped, item.number < position

def Reading.Ordered (queue : StatusQueue) : Reading → Prop
  | .popping (.loadedHead head) => queue.PoppedBefore head
  | .popping (.found head) => queue.PoppedBefore head
  | .popping (.copied head item) =>
      queue.PoppedBefore head ∧ item.number = head
  | _ => True

structure Threads.Ordered (threads : Threads) : Prop where
  inOrder : threads.queue.InOrder
  below : threads.queue.PoppedBefore threads.queue.head
  consumer : ∀ call ∈ threads.consumer, call.Ordered threads.queue

/-- A push does not store a head which lies behind the present one. -/
def Push.KeepsHead (queue : StatusQueue) : Push → Prop
  | .trimming writeIdx =>
      queue.head ≤ wordSub (word (writeIdx + 1)) (capacity - 1)
  | _ => True

/-- A pop does not copy a slot which was written again. -/
def Reading.CopiesFresh (queue : StatusQueue) : Reading → Prop
  | .popping (.found head) => queue.writes ≤ head + capacity
  | _ => True

def Threads.Undisturbed (threads : Threads) : Move → Prop
  | .produce => ∀ call ∈ threads.producer, call.KeepsHead threads.queue
  | .consume => ∀ call ∈ threads.consumer, call.CopiesFresh threads.queue
  | _ => True

instance (queue : StatusQueue) : (call : Push) →
    Decidable (call.KeepsHead queue)
  | .trimming _ => inferInstanceAs (Decidable (_ ≤ _))
  | .start _ => isTrue trivial
  | .reserved _ _ => isTrue trivial
  | .written _ => isTrue trivial
  | .stored _ => isTrue trivial

instance (queue : StatusQueue) : (call : Reading) →
    Decidable (call.CopiesFresh queue)
  | .popping (.found _) => inferInstanceAs (Decidable (_ ≤ _))
  | .popping .start => isTrue trivial
  | .popping (.loadedHead _) => isTrue trivial
  | .popping (.copied _ _) => isTrue trivial
  | .viewing _ _ => isTrue trivial

instance (threads : Threads) : (move : Move) →
    Decidable (threads.Undisturbed move)
  | .produce =>
      inferInstanceAs
        (Decidable (∀ call ∈ threads.producer, call.KeepsHead threads.queue))
  | .consume =>
      inferInstanceAs
        (Decidable
          (∀ call ∈ threads.consumer, call.CopiesFresh threads.queue))
  | .push _ => isTrue trivial
  | .pop => isTrue trivial
  | .latest => isTrue trivial

section Order

variable {queue after : StatusQueue} {threads : Threads}

theorem PoppedBefore.congr {position : Nat}
    (before : queue.PoppedBefore position)
    (popped : after.popped = queue.popped) : after.PoppedBefore position := by
  rw [PoppedBefore, popped]
  exact before

theorem PoppedBefore.mono {position later : Nat}
    (before : queue.PoppedBefore position) (ordered : position ≤ later) :
    queue.PoppedBefore later := fun item inside =>
  Nat.lt_of_lt_of_le (before item inside) ordered

theorem Reading.Ordered.congr {call : Reading}
    (ordered : call.Ordered queue) (popped : after.popped = queue.popped) :
    call.Ordered after := by
  rcases call with (_ | head | head | ⟨head, item⟩) | call
  · trivial
  · exact PoppedBefore.congr ordered popped
  · exact PoppedBefore.congr ordered popped
  · exact ⟨PoppedBefore.congr ordered.1 popped, ordered.2⟩
  · trivial

/-- Only its last step lets a push store the head. -/
theorem Push.KeepsHead.head_le {call : Push} (keeps : call.KeepsHead queue) :
    queue.head ≤ (call.step queue).1.head := by
  cases call with
  | start item =>
      rw [Push.step]
      generalize word (queue.writeIndex + 1) = index
      exact Nat.le_refl queue.head
  | reserved item writeIdx => exact Nat.le_refl queue.head
  | written writeIdx =>
      rw [Push.step]
      generalize word (writeIdx + 1) = tail
      exact Nat.le_refl queue.head
  | stored writeIdx =>
      rw [Push.step]
      split <;> exact Nat.le_refl queue.head
  | trimming writeIdx =>
      rw [KeepsHead] at keeps
      rw [Push.step]
      generalize wordSub (word (writeIdx + 1)) (capacity - 1) = head at keeps
      exact keeps

theorem Threads.Ordered.produce (ordered : threads.Ordered)
    (sound : threads.Sound) (few : threads.queue.pushes < 2 ^ 32)
    (undisturbed : threads.Undisturbed .produce) :
    threads.produce.Ordered := by
  rw [Threads.produce]
  split
  case h_1 => exact ordered
  case h_2 call going =>
    have producing := sound.producer
    rw [going] at producing
    have advances := (Push.step_spec sound.queue producing few).2.2
    have popped := advances.popped_eq
    exact {
      inOrder := by
        rw [InOrder, popped]
        exact ordered.inOrder
      below := PoppedBefore.congr
        (ordered.below.mono (undisturbed call going).head_le) popped
      consumer := fun next inside =>
        (ordered.consumer next inside).congr popped }

/-- A pop of a fresh snapshot continues the order. -/
theorem InOrder.storeHead (inOrder : queue.InOrder) {item : Numbered}
    (before : queue.PoppedBefore item.number) :
    (queue.storeHead (item.number + 1) item).InOrder ∧
      (queue.storeHead (item.number + 1) item).PoppedBefore
        (item.number + 1) := by
  constructor
  · show ((queue.popped ++ [item]).map Numbered.number).Pairwise (· < ·)
    rw [List.map_append, List.pairwise_append]
    refine ⟨inOrder, List.pairwise_singleton _ _, ?_⟩
    intro number old number' new
    rcases List.mem_map.mp old with ⟨earlier, inside, rfl⟩
    rw [List.map_singleton, List.mem_singleton] at new
    rw [new]
    exact before earlier inside
  · intro earlier (inside : earlier ∈ queue.popped ++ [item])
    rcases List.mem_append.mp inside with old | new
    · exact Nat.lt_succ_of_lt (before earlier old)
    · rw [List.mem_singleton.mp new]
      exact Nat.lt_succ_self _

theorem Threads.Ordered.consume (ordered : threads.Ordered)
    (sound : threads.Sound) (few : threads.queue.pushes < 2 ^ 32)
    (undisturbed : threads.Undisturbed .consume) :
    threads.consume.Ordered := by
  rcases sound.producer.tail_le with ⟨-, tail, writes⟩
  rw [Threads.consume]
  split
  case h_1 => exact ordered
  case h_2 call going =>
    have fits := sound.consumer call going
    have knows := ordered.consumer call going
    cases call with
    | viewing completed call =>
        refine ⟨ordered.inOrder, ordered.below, ?_⟩
        intro next inside
        rcases Option.map_eq_some_iff.mp inside with ⟨later, -, rfl⟩
        trivial
    | popping call =>
        cases call with
        | start =>
            refine ⟨ordered.inOrder, ordered.below, ?_⟩
            rintro next ⟨⟩
            exact ordered.below
        | loadedHead head =>
            rw [Reading.step, Pop.step]
            split
            case isTrue none =>
              refine ⟨ordered.inOrder, ordered.below, ?_⟩
              rintro next ⟨⟩
            case isFalse some =>
              refine ⟨ordered.inOrder, ordered.below, ?_⟩
              rintro next ⟨⟩
              exact knows
        | found head =>
            refine ⟨ordered.inOrder, ordered.below, ?_⟩
            rintro next ⟨⟩
            exact ⟨knows, sound.queue.fresh head
              (Nat.lt_of_lt_of_le fits.1 tail) (undisturbed _ going)⟩
        | copied head item =>
            rcases knows with ⟨before, rfl⟩
            have below := fits.1
            have next : word (item.number + 1) = item.number + 1 :=
              word_of_lt (by omega)
            rcases ordered.inOrder.storeHead before with ⟨order, within⟩
            rw [Reading.step, Pop.step, next]
            refine ⟨order, within, ?_⟩
            rintro later ⟨⟩

theorem Threads.Ordered.beginReading (ordered : threads.Ordered)
    {call : Reading} (knows : call.Ordered threads.queue) :
    (threads.beginReading call).Ordered where
  inOrder := ordered.inOrder
  below := ordered.below
  consumer := forall_mem_or ordered.consumer knows

theorem Threads.Ordered.step (ordered : threads.Ordered)
    (sound : threads.Sound) (few : threads.queue.pushes < 2 ^ 32)
    {move : Move} (undisturbed : threads.Undisturbed move) :
    (threads.step move).Ordered := by
  cases move with
  | push item =>
      rw [Threads.step, Threads.beginPush]
      split
      · exact ⟨ordered.inOrder, ordered.below, fun call inside =>
          (ordered.consumer call inside).congr rfl⟩
      · exact ordered
  | produce => exact ordered.produce sound few undisturbed
  | pop => exact ordered.beginReading trivial
  | latest => exact ordered.beginReading trivial
  | consume => exact ordered.consume sound few undisturbed

end Order

/-! ## What holds of every run -/

theorem foldl_sound {threads : Threads}
    (sound : threads.queue.pushes < 2 ^ 32 → threads.Sound)
    (moves : List Move) :
    (moves.foldl Threads.step threads).queue.pushes < 2 ^ 32 →
      (moves.foldl Threads.step threads).Sound := by
  induction moves generalizing threads with
  | nil => exact sound
  | cons move moves ih =>
      apply ih
      intro few
      have fewer := Nat.lt_of_le_of_lt (threads.pushes_le_step move) few
      exact (sound fewer).step fewer move

theorem foldl_ordered {threads : Threads}
    (served : threads.queue.pushes < 2 ^ 32 →
      threads.Sound ∧ threads.Ordered)
    {moves : List Move}
    (undisturbed :
      Throughout Threads.step Threads.Undisturbed threads moves) :
    (moves.foldl Threads.step threads).queue.pushes < 2 ^ 32 →
      (moves.foldl Threads.step threads).Ordered := by
  induction moves generalizing threads with
  | nil => exact fun few => (served few).2
  | cons move moves ih =>
      rcases throughout_cons.mp undisturbed with ⟨now, later⟩
      apply ih _ later
      intro few
      have fewer := Nat.lt_of_le_of_lt (threads.pushes_le_step move) few
      rcases served fewer with ⟨sound, ordered⟩
      exact ⟨sound.step fewer move, ordered.step sound fewer now⟩

theorem create_ordered : Threads.create.Ordered where
  inOrder := List.Pairwise.nil
  below := by rintro item ⟨⟩
  consumer := by rintro call ⟨⟩

/--
A call of `latest` which is about to return false has nothing left to account
for, and one which returns a snapshot knows of no later one from before.
-/
structure LatestTells (accounted : StatusQueue → Nat → Prop)
    (threads : Threads) : Prop where
  missed : ∀ completed call,
    threads.consumer = some (.viewing completed call) →
      call.step threads.queue = .inr none →
        ∀ number < completed, accounted threads.queue number
  recent : ∀ completed call item,
    threads.consumer = some (.viewing completed call) →
      call.step threads.queue = .inr (some item) →
        completed ≤ item.number + 1

theorem Threads.Sound.latestTells {threads : Threads}
    (sound : threads.Sound) : LatestTells Gone threads := by
  rcases sound.producer.tail_le with ⟨-, tail, -⟩
  constructor
  · intro completed call viewing missed number below
    have fits := sound.consumer _ viewing
    cases call with
    | start => cases missed
    | found loaded => cases missed
    | loadedTail loaded =>
        rw [Latest.step] at missed
        split at missed
        case isFalse => cases missed
        case isTrue passed =>
          have before : completed ≤ loaded := fits.1
          exact sound.queue.gone number (by omega)
  · intro completed call item viewing returned
    have fits := sound.consumer _ viewing
    cases call with
    | start => cases returned
    | loadedTail loaded =>
        rw [Latest.step] at returned
        split at returned <;> cases returned
    | found loaded =>
        rcases fits with ⟨before, within, positive⟩
        cases returned
        have newest := sound.queue.newest (loaded - 1) (by omega)
        omega

/--
However the two threads interleave, `latest` accounts for all earlier
snapshots; pops are in order as long as none of them copies a slot which was
written again and no push puts the head back.
-/
theorem status_queue_guarantees (moves : List Move)
    (few : (run moves).queue.pushes < 2 ^ 32) :
    LatestTells Gone (run moves) ∧
      (Throughout Threads.step Threads.Undisturbed Threads.create moves →
        (run moves).queue.InOrder) := by
  constructor
  · exact (foldl_sound (fun _ => Threads.Sound.create) moves few).latestTells
  · intro undisturbed
    exact (foldl_ordered (fun _ => ⟨Threads.Sound.create, create_ordered⟩)
      undisturbed few).inOrder

/-! ## Some runs -/

def repeated (count : Nat) (moves : List Move) : List Move :=
  (List.replicate count moves).flatten

def pushMoves : List Move :=
  .push {} :: List.replicate 5 .produce

def popMoves : List Move :=
  .pop :: List.replicate 4 .consume

/-- The ring is filled and drops two snapshots, two pops follow, and a call of
`latest` is about to return. -/
theorem status_queue_guarantees_overflow :
    let moves := repeated 33 pushMoves ++ repeated 2 popMoves ++
      [.latest, .consume, .consume]
    LatestTells Gone (run moves) ∧ (run moves).queue.InOrder := by
  have guaranteed := status_queue_guarantees
    (repeated 33 pushMoves ++ repeated 2 popMoves ++
      [.latest, .consume, .consume]) (by decide +kernel)
  exact ⟨guaranteed.1, guaranteed.2 (by decide +kernel)⟩

/-- What would hold if the ring never dropped anything and stores were safe. -/
def Safe (threads : Threads) : Prop :=
  threads.queue.InOrder ∧ LatestTells Popped threads

/-- Two snapshots are dropped, and all others are popped. -/
def droppingRun : List Move :=
  repeated 33 pushMoves ++ repeated 31 popMoves ++ [.latest, .consume]

/-- The last push has loaded the head before three pops store it. -/
def undoingRun : List Move :=
  repeated 31 pushMoves ++ .push {} :: List.replicate 4 .produce ++
    repeated 3 popMoves ++ .produce :: popMoves

theorem status_queue_unsafe :
    ((run droppingRun).queue.pushes < 2 ^ 32 ∧ ¬ Safe (run droppingRun)) ∧
      (run undoingRun).queue.pushes < 2 ^ 32 ∧ ¬ Safe (run undoingRun) := by
  refine ⟨⟨by decide +kernel, ?_⟩, by decide +kernel, ?_⟩
  · rintro ⟨-, tells⟩
    have popped := tells.missed 33 (.loadedTail 33) (by decide +kernel)
      (by decide +kernel) 0 (by decide)
    rcases popped with ⟨item, inside, first⟩
    have later : ∀ item ∈ (run droppingRun).queue.popped,
        item.number ≠ 0 := by
      decide +kernel
    exact later item inside first
  · rintro ⟨inOrder, -⟩
    have twice : (run undoingRun).queue.popped.map Numbered.number =
        [0, 1, 2, 1] := by
      decide +kernel
    rw [InOrder, twice] at inOrder
    exact absurd inOrder (by decide)

end StatusQueue

end Windmi.Core
