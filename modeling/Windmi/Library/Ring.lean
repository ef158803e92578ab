import Mathlib.Data.List.Range
import Mathlib.Logic.Function.Basic

/-!
# Ring buffers

A queue in a fixed array with an index to read from and one to write to.  One
slot always stays free, so that equal indices mean an empty buffer.  What the
buffer contains is a list, and the operations act on that list as on a bounded
queue.
-/

namespace Windmi.Library

/-- Positions less than one lap apart share a slot only if they are equal. -/
theorem mod_eq_mod_iff {earlier later capacity : Nat}
    (ordered : earlier ≤ later) (within : later < earlier + capacity) :
    later % capacity = earlier % capacity ↔ later = earlier := by
  constructor
  · intro same
    have apart : (later - earlier) % capacity = 0 :=
      Nat.sub_mod_eq_zero_of_mod_eq same
    rw [Nat.mod_eq_of_lt (by omega)] at apart
    omega
  · rintro rfl
    rfl

/-- Slots outside the part in use hold whatever was there before. -/
structure Ring (Item : Type*) (capacity : Nat) where
  slots : Nat → Item
  head : Nat
  tail : Nat
  head_lt : head < capacity
  tail_lt : tail < capacity

namespace Ring

variable {Item : Type*} {capacity : Nat}

/-! ## Operations -/

def empty (slots : Nat → Item) (positive : 0 < capacity) :
    Ring Item capacity where
  slots := slots
  head := 0
  tail := 0
  head_lt := positive
  tail_lt := positive

/-- A push fails, and changes nothing, if it would use the free slot. -/
def push (item : Item) (ring : Ring Item capacity) :
    Bool × Ring Item capacity :=
  if (ring.tail + 1) % capacity = ring.head then
    (false, ring)
  else
    (true,
      { ring with
        slots := Function.update ring.slots ring.tail item
        tail := (ring.tail + 1) % capacity
        tail_lt := Nat.mod_lt _ (Nat.zero_lt_of_lt ring.tail_lt) })

def pop (ring : Ring Item capacity) : Option Item × Ring Item capacity :=
  if ring.head = ring.tail then
    (none, ring)
  else
    (some (ring.slots ring.head),
      { ring with
        head := (ring.head + 1) % capacity
        head_lt := Nat.mod_lt _ (Nat.zero_lt_of_lt ring.head_lt) })

/-! ## Contents -/

variable (ring : Ring Item capacity)

/-- The number of slots in use. -/
def used : Nat :=
  (ring.tail + capacity - ring.head) % capacity

/-- The items which are waiting, oldest first. -/
def contents : List Item :=
  (List.range ring.used).map fun offset =>
    ring.slots ((ring.head + offset) % capacity)

theorem length_contents : ring.contents.length = ring.used := by
  simp [contents]

/-- An index that went past the end once. -/
theorem wrap {index size : Nat} (once : index < 2 * size) :
    index % size = if index < size then index else index - size := by
  split
  case isTrue within => exact Nat.mod_eq_of_lt within
  case isFalse past =>
    rw [Nat.mod_eq_sub_mod (by omega), Nat.mod_eq_of_lt (by omega)]

theorem used_eq :
    ring.used =
      if ring.head ≤ ring.tail then ring.tail - ring.head
      else ring.tail + capacity - ring.head := by
  have head := ring.head_lt
  have tail := ring.tail_lt
  rw [used, wrap (by omega)]
  split_ifs <;> omega

theorem used_lt : ring.used < capacity :=
  Nat.mod_lt _ (Nat.zero_lt_of_lt ring.head_lt)

/-- Only one slot is left exactly if the write index has come around. -/
theorem full_iff :
    (ring.tail + 1) % capacity = ring.head ↔ ring.used + 1 = capacity := by
  have head := ring.head_lt
  have tail := ring.tail_lt
  rw [used_eq, wrap (by omega)]
  split_ifs <;> omega

/-! ## The operations on the contents -/

variable {ring}

/-- A push appends as long as a slot stays free. -/
theorem push_of_room (item : Item)
    (room : ring.contents.length + 1 < capacity) :
    (ring.push item).1 = true ∧
      (ring.push item).2.contents = ring.contents ++ [item] := by
  rw [length_contents] at room
  have notFull : ¬ (ring.tail + 1) % capacity = ring.head := by
    rw [full_iff]
    omega
  have head := ring.head_lt
  have tail := ring.tail_lt
  have next : (ring.tail + 1) % capacity =
      if ring.tail + 1 < capacity then ring.tail + 1
      else ring.tail + 1 - capacity := wrap (by omega)
  have before := ring.used_eq
  rw [push, if_neg notFull]
  refine ⟨rfl, ?_⟩
  have grown : used
      { ring with
        slots := Function.update ring.slots ring.tail item
        tail := (ring.tail + 1) % capacity
        tail_lt := Nat.mod_lt _ (Nat.zero_lt_of_lt ring.tail_lt) } =
        ring.used + 1 := by
    rw [used_eq, before]
    simp only [next] at notFull ⊢
    split_ifs at notFull ⊢ <;> omega
  rw [contents, grown, List.range_succ, List.map_append]
  congr 1
  · apply List.map_congr_left
    intro offset within
    have below := List.mem_range.mp within
    have other : (ring.head + offset) % capacity ≠ ring.tail := by
      rw [wrap (by omega)]
      split_ifs at before ⊢ <;> omega
    exact Function.update_of_ne other _ _
  · have last : (ring.head + ring.used) % capacity = ring.tail := by
      rw [wrap (by omega)]
      split_ifs at before ⊢ <;> omega
    simp only [List.map_cons, List.map_nil, last, Function.update_self]

/-- Without room a push changes nothing. -/
theorem push_of_full (item : Item)
    (full : ¬ ring.contents.length + 1 < capacity) :
    ring.push item = (false, ring) := by
  rw [length_contents] at full
  have below := ring.used_lt
  rw [push, if_pos (ring.full_iff.mpr (by omega))]

/-- A pop takes the oldest item, if there is one. -/
theorem pop_contents :
    ring.pop.1.toList ++ ring.pop.2.contents = ring.contents := by
  rw [pop]
  split
  case isTrue => rfl
  case isFalse nonempty =>
    have head := ring.head_lt
    have tail := ring.tail_lt
    have next : (ring.head + 1) % capacity =
        if ring.head + 1 < capacity then ring.head + 1
        else ring.head + 1 - capacity := wrap (by omega)
    have before := ring.used_eq
    have shrunk : used
        { ring with
          head := (ring.head + 1) % capacity
          head_lt := Nat.mod_lt _ (Nat.zero_lt_of_lt ring.head_lt) } + 1 =
          ring.used := by
      rw [used_eq, before]
      simp only [next]
      split_ifs <;> omega
    rw [contents, contents, ← shrunk, List.range_succ_eq_map, List.map_cons,
      List.map_map]
    refine List.cons_eq_cons.mpr ⟨?_, ?_⟩
    · rw [Nat.add_zero, Nat.mod_eq_of_lt head]
    · apply List.map_congr_left
      intro offset _
      simp only [Function.comp_apply, Nat.succ_eq_add_one, Nat.mod_add_mod]
      congr 2
      omega

end Ring

end Windmi.Library
