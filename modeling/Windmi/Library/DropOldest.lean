import Windmi.Library.Ring

/-!
# Queues that drop their oldest item

A bounded queue whose pushes never fail: one that finds it full drops the
oldest item.  Readers take the oldest item or look at the newest one.  Such a
queue fits around a ring of more slots than it holds items.
-/

namespace Windmi.Library.DropOldest

variable {Item : Type*}

inductive Call (Item : Type*)
  | push (item : Item)
  | pop
  | latest

inductive Answer (Item : Type*)
  | pushed
  | missed
  | found (item : Item)
  deriving DecidableEq

/-- The items that are left, oldest first, and the number of pushes so far. -/
structure Queue (Item : Type*) where
  items : List Item := []
  pushes : Nat := 0

/-- Drop the oldest item while there are more than the bound. -/
def trim (bound : Nat) (items : List Item) : List Item :=
  items.drop (items.length - bound)

theorem trim_of_room {bound : Nat} {items : List Item}
    (room : items.length ≤ bound) : trim bound items = items := by
  rw [trim, Nat.sub_eq_zero_of_le room, List.drop_zero]

theorem trim_of_full {bound : Nat} {items : List Item}
    (full : items.length = bound + 1) : trim bound items = items.drop 1 := by
  rw [trim, full, Nat.add_sub_cancel_left]

def answered : Option Item → Answer Item
  | none => .missed
  | some item => .found item

/-- The next queue and the answer to a call. -/
def serve (bound : Nat) (queue : Queue Item) :
    Call Item → Queue Item × Answer Item
  | .push item =>
      ({ items := trim bound (queue.items ++ [item])
         pushes := queue.pushes + 1 }, .pushed)
  | .pop =>
      ({ queue with items := queue.items.tail }, answered queue.items.head?)
  | .latest => (queue, answered queue.items.getLast?)

def step (bound : Nat) (queue : Queue Item) (call : Call Item) :
    Queue Item :=
  (serve bound queue call).1

/-- The answers to a sequence of calls. -/
def answers (bound : Nat) (queue : Queue Item) :
    List (Call Item) → List (Answer Item)
  | [] => []
  | call :: calls =>
      (serve bound queue call).2 :: answers bound (step bound queue call) calls

/-- After some pushes a queue is full or holds all of them. -/
theorem pushes_foldl (bound : Nat) (item : Item) (count : Nat)
    (queue : Queue Item) :
    let after := (List.replicate count (.push item)).foldl (step bound) queue
    after.pushes = queue.pushes + count ∧
      (queue.items.length ≤ bound →
        after.items.length = min bound (queue.items.length + count)) := by
  induction count generalizing queue with
  | zero =>
      refine ⟨rfl, fun within => ?_⟩
      exact (Nat.min_eq_right within).symm
  | succ count ih =>
      rcases ih (step bound queue (.push item)) with ⟨pushes, length⟩
      have first : (step bound queue (.push item)).items.length =
          min bound (queue.items.length + 1) := by
        simp only [step, serve, trim, List.length_drop, List.length_append,
          List.length_singleton]
        omega
      refine ⟨?_, fun within => ?_⟩
      · rw [List.replicate_succ, List.foldl_cons, pushes]
        simp only [step, serve]
        omega
      · rw [List.replicate_succ, List.foldl_cons, length (by omega), first]
        omega

/-! ## Around a ring -/

/-- From an index on the slots of a ring hold the items. -/
def Holds (capacity : Nat) (slots : Nat → Item) (start : Nat)
    (items : List Item) : Prop :=
  ∀ offset, (inside : offset < items.length) →
    slots ((start + offset) % capacity) = items[offset]

variable {capacity : Nat} {slots : Nat → Item} {start : Nat}
  {items : List Item}

/-- A push into a free slot leaves the others alone. -/
theorem Holds.push (holds : Holds capacity slots start items)
    (room : items.length < capacity) (item : Item) :
    Holds capacity
      (Function.update slots ((start + items.length) % capacity) item)
      start (items ++ [item]) := by
  intro offset inside
  rw [List.length_append, List.length_singleton] at inside
  by_cases last : offset = items.length
  · subst last
    simp
  · have before : offset < items.length := by omega
    have other : (start + offset) % capacity ≠
        (start + items.length) % capacity := by
      rw [ne_comm, Ne, mod_eq_mod_iff (by omega) (by omega)]
      omega
    rw [Function.update_of_ne other, List.getElem_append_left before]
    exact holds offset before

theorem Holds.drop (holds : Holds capacity slots start items)
    (count : Nat) : Holds capacity slots (start + count) (items.drop count) := by
  intro offset inside
  rw [List.length_drop] at inside
  rw [List.getElem_drop, Nat.add_assoc]
  exact holds (count + offset) (by omega)

theorem Holds.head? (holds : Holds capacity slots start items)
    (nonempty : items ≠ []) :
    items.head? = some (slots (start % capacity)) := by
  cases items with
  | nil => exact absurd rfl nonempty
  | cons item items =>
      have first := holds 0 (Nat.succ_pos _)
      rw [Nat.add_zero] at first
      rw [first]
      rfl

theorem Holds.getLast? (holds : Holds capacity slots start items)
    (nonempty : items ≠ []) :
    items.getLast? =
      some (slots ((start + (items.length - 1)) % capacity)) := by
  have positive := List.length_pos_iff.mpr nonempty
  rw [holds (items.length - 1) (by omega), List.getLast?_eq_getElem?,
    List.getElem?_eq_getElem]

end Windmi.Library.DropOldest
