import Mathlib.Data.List.Basic

/-!
# First-in first-out pipes with delay

A pipe delivers its items in order and at its own pace: what was pushed is
under way at first, and only what has arrived can be received.
-/

namespace Windmi.Library

structure Pipe (Item : Type*) where
  arrived : List Item
  underway : List Item

namespace Pipe

variable {Item : Type*} (pipe : Pipe Item)

def empty : Pipe Item where
  arrived := []
  underway := []

/-- Everything that was pushed and not taken yet, oldest first. -/
def contents : List Item :=
  pipe.arrived ++ pipe.underway

def push (items : List Item) : Pipe Item :=
  { pipe with underway := pipe.underway ++ items }

/-- Some more items arrive. -/
def deliver (count : Nat) : Pipe Item where
  arrived := pipe.arrived ++ pipe.underway.take count
  underway := pipe.underway.drop count

/-- Discard exactly what has arrived. -/
def discard : Pipe Item :=
  { pipe with arrived := [] }

/--
Receive a chunk of what has arrived: at most as much as asked for, and
something unless nothing has arrived.
-/
def receive (limit chunk : Nat) : List Item × Pipe Item :=
  let count := min limit (max 1 chunk)
  (pipe.arrived.take count,
    { pipe with arrived := pipe.arrived.drop count })

@[simp]
theorem contents_push (items : List Item) :
    (pipe.push items).contents = pipe.contents ++ items := by
  simp [push, contents]

@[simp]
theorem contents_deliver (count : Nat) :
    (pipe.deliver count).contents = pipe.contents := by
  simp [deliver, contents]

theorem contents_discard :
    pipe.arrived ++ pipe.discard.contents = pipe.contents :=
  rfl

/-- Nothing remains of an empty pipe. -/
theorem contents_discard_of_empty (empty : pipe.contents = []) :
    pipe.discard.contents = [] := by
  have split := pipe.contents_discard
  rw [empty] at split
  exact (List.append_eq_nil_iff.mp split).2

theorem receive_append (limit chunk : Nat) :
    (pipe.receive limit chunk).1 ++ (pipe.receive limit chunk).2.contents =
      pipe.contents := by
  simp only [receive, contents]
  rw [← List.append_assoc, List.take_append_drop]

theorem length_receive_le (limit chunk : Nat) :
    (pipe.receive limit chunk).1.length ≤ limit := by
  simp only [receive, List.length_take]
  omega

/-- What is under way arrives if time is given. -/
theorem arrived_deliver_ne {count : Nat} (positive : 0 < count)
    (nonempty : pipe.contents ≠ []) : (pipe.deliver count).arrived ≠ [] := by
  intro nothing
  rcases List.append_eq_nil_iff.mp nothing with ⟨none, taken⟩
  have under : pipe.underway = [] := by
    rcases List.take_eq_nil_iff.mp taken with zero | nil
    · exact absurd zero (Nat.pos_iff_ne_zero.mp positive)
    · exact nil
  exact nonempty (List.append_eq_nil_iff.mpr ⟨none, under⟩)

theorem receive_ne {limit chunk : Nat} (positive : 0 < limit)
    (nonempty : pipe.arrived ≠ []) : (pipe.receive limit chunk).1 ≠ [] := by
  intro nothing
  rcases List.take_eq_nil_iff.mp nothing with zero | nil
  · omega
  · exact nonempty nil

end Pipe

end Windmi.Library
