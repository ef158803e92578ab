import Mathlib.Data.Finset.Card
import Mathlib.Data.Finset.Insert
import Mathlib.Data.Finset.Option
import Mathlib.Data.List.Count

/-!
# A ledger of handles

Handles are acquired and released, and the ledger remembers which of them are
open, which were open at any earlier moment, and how often each was released.
They are numbered as they are acquired, so that no two share a number.  An
owner that keeps one handle at most, and releases it before it takes another,
leaves a balanced ledger; a handle which its owner forgets is never made good.
-/

namespace Windmi.Library

structure Handles where
  /-- How many handles have been acquired. -/
  acquired : Nat := 0
  openHandles : Finset Nat := ∅
  /-- The handles released, newest first. -/
  released : List Nat := []
  /-- What was open at the moments before, newest first. -/
  past : List (Finset Nat) := []
  deriving DecidableEq

/-- Acquire the next handle. -/
def Handles.acquire (handles : Handles) : Handles :=
  { handles with
    acquired := handles.acquired + 1
    openHandles := insert handles.acquired handles.openHandles
    past := handles.openHandles :: handles.past }

def Handles.release (handle : Nat) (handles : Handles) : Handles :=
  { handles with
    openHandles := handles.openHandles.erase handle
    released := handle :: handles.released
    past := handles.openHandles :: handles.past }

/--
At no moment was more than one handle open, and each handle has been released
exactly once.
-/
structure Handles.Balanced (handles : Handles) : Prop where
  single : ∀ moment ∈ handles.openHandles :: handles.past, moment.card ≤ 1
  once : ∀ handle < handles.acquired, handles.released.count handle = 1

/-- Exactly the handle of the owner, if any, remains to be released. -/
structure Handles.Tidy (owner : Option Nat) (handles : Handles) : Prop where
  openHandles : handles.openHandles = owner.toFinset
  acquired : ∀ handle, owner = some handle → handle < handles.acquired
  past : ∀ moment ∈ handles.past, moment.card ≤ 1
  released : ∀ handle,
    handles.released.count handle =
      if handle < handles.acquired ∧ owner ≠ some handle then 1 else 0

/-- An acquired handle has not been released. -/
structure Handles.Outstanding (handle : Nat) (handles : Handles) : Prop where
  acquired : handle < handles.acquired
  unreleased : handles.released.count handle = 0

section

variable {handles : Handles} {owner : Option Nat} {handle : Nat}

theorem Handles.tidy_empty : ({} : Handles).Tidy none where
  openHandles := rfl
  acquired _ impossible := nomatch impossible
  past _ member := nomatch member
  released _ := rfl

theorem Handles.Tidy.single (tidy : handles.Tidy owner) :
    ∀ moment ∈ handles.openHandles :: handles.past, moment.card ≤ 1 := by
  intro moment member
  rcases List.mem_cons.mp member with rfl | earlier
  · rw [tidy.openHandles, Option.card_toFinset]
    cases owner with
    | none => exact Nat.zero_le 1
    | some handle => exact le_refl 1
  · exact tidy.past moment earlier

theorem Handles.Tidy.acquire (tidy : handles.Tidy none) :
    handles.acquire.Tidy (some handles.acquired) where
  openHandles := by
    simp [Handles.acquire, tidy.openHandles]
  acquired := by
    rintro handle ⟨⟩
    exact Nat.lt_succ_self _
  past := tidy.single
  released := by
    intro handle
    have before := tidy.released handle
    simp only [Handles.acquire, before, Option.some.injEq, ne_eq]
    split_ifs <;> grind

theorem Handles.Tidy.release (tidy : handles.Tidy (some handle)) :
    (handles.release handle).Tidy none where
  openHandles := by
    simp [Handles.release, tidy.openHandles]
  acquired _ impossible := nomatch impossible
  past := tidy.single
  released := by
    intro other
    have before := tidy.released other
    have known := tidy.acquired handle rfl
    simp only [Handles.release, List.count_cons, before]
    split_ifs <;> grind

theorem Handles.Tidy.balanced (tidy : handles.Tidy none) :
    handles.Balanced where
  single := tidy.single
  once := by
    intro handle known
    rw [tidy.released, if_pos ⟨known, by simp⟩]

theorem Handles.Tidy.outstanding (tidy : handles.Tidy (some handle)) :
    handles.Outstanding handle where
  acquired := tidy.acquired handle rfl
  unreleased := by
    rw [tidy.released, if_neg fun both => both.2 rfl]

theorem Handles.Outstanding.acquire (outstanding : handles.Outstanding handle) :
    handles.acquire.Outstanding handle where
  acquired := Nat.lt_succ_of_lt outstanding.acquired
  unreleased := outstanding.unreleased

theorem Handles.Outstanding.release (outstanding : handles.Outstanding handle)
    {other : Nat} (different : other ≠ handle) :
    (handles.release other).Outstanding handle where
  acquired := outstanding.acquired
  unreleased := by
    simp only [Handles.release]
    rw [List.count_cons_of_ne different]
    exact outstanding.unreleased

/-! ### A handle that is released at once -/

theorem Handles.Tidy.abandon (tidy : handles.Tidy none) :
    (handles.acquire.release handles.acquired).Tidy none :=
  tidy.acquire.release

theorem Handles.Outstanding.abandon
    (outstanding : handles.Outstanding handle) :
    (handles.acquire.release handles.acquired).Outstanding handle :=
  outstanding.acquire.release (Nat.ne_of_gt outstanding.acquired)

theorem Handles.Outstanding.not_balanced
    (outstanding : handles.Outstanding handle) : ¬ handles.Balanced := by
  intro balanced
  have once := balanced.once handle outstanding.acquired
  rw [outstanding.unreleased] at once
  cases once

end

end Windmi.Library
