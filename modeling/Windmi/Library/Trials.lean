import Mathlib.Order.Basic
import Mathlib.Data.Nat.Find

/-!
# Repeated trials

A trial is repeated until it succeeds, at most a given number of times.  Some
trials are fatal: whatever follows them fails.
-/

namespace Windmi.Library

/-- Some trial succeeds, and none before it is fatal. -/
def Reached (succeeds fatal : Nat → Prop) (count : Nat) : Prop :=
  ∃ trial < count, succeeds trial ∧ ∀ earlier < trial, ¬ fatal earlier

section

variable {succeeds fatal : Nat → Prop}

@[simp]
theorem not_reached_zero : ¬ Reached succeeds fatal 0 := by
  rintro ⟨trial, below, -⟩
  exact Nat.not_lt_zero trial below

/-- The first trial succeeds, or it is not fatal and the others follow. -/
theorem reached_succ (count : Nat) :
    Reached succeeds fatal (count + 1) ↔
      succeeds 0 ∨
        ¬ fatal 0 ∧
          Reached (fun trial => succeeds (trial + 1))
            (fun trial => fatal (trial + 1)) count := by
  constructor
  · rintro ⟨_ | trial, below, success, harmless⟩
    · exact Or.inl success
    · refine Or.inr ⟨harmless 0 (Nat.succ_pos trial), trial,
        Nat.lt_of_succ_lt_succ below, success, ?_⟩
      intro earlier before
      exact harmless (earlier + 1) (Nat.succ_lt_succ before)
  · rintro (success | ⟨first, trial, below, success, harmless⟩)
    · refine ⟨0, Nat.succ_pos count, success, ?_⟩
      intro earlier before
      exact absurd before (Nat.not_lt_zero earlier)
    · refine ⟨trial + 1, Nat.succ_lt_succ below, success, ?_⟩
      rintro (_ | earlier) before
      · exact first
      · exact harmless earlier (Nat.lt_of_succ_lt_succ before)

/-- Only the first success matters. -/
theorem reached_iff_of_first {count trial : Nat} (below : trial < count)
    (success : succeeds trial)
    (first : ∀ earlier < trial, ¬ succeeds earlier) :
    Reached succeeds fatal count ↔ ∀ earlier < trial, ¬ fatal earlier := by
  constructor
  · rintro ⟨other, -, succeeded, harmless⟩ earlier before
    have later : trial ≤ other := by
      by_contra sooner
      exact first other (Nat.lt_of_not_le sooner) succeeded
    exact harmless earlier (before.trans_le later)
  · exact fun harmless => ⟨trial, below, success, harmless⟩

/--
Where every good trial succeeds, a good one among them means a success exactly
if the trials before the first success are fatal in the other case only.
-/
theorem reached_iff_exists_iff {good : Nat → Prop} {count : Nat}
    (enough : ∀ trial, good trial → succeeds trial) :
    (Reached succeeds fatal count ↔ ∃ trial < count, good trial) ↔
      ∀ trial < count, succeeds trial →
        (∀ earlier < trial, ¬ succeeds earlier) →
          ((∀ earlier < trial, ¬ fatal earlier) ↔
            ∃ trial < count, good trial) := by
  constructor
  · intro same trial below success first
    rw [← reached_iff_of_first below success first]
    exact same
  · intro decided
    by_cases any : ∃ trial, trial < count ∧ succeeds trial
    · classical
      rcases Nat.find_spec any with ⟨below, success⟩
      have first : ∀ earlier < Nat.find any, ¬ succeeds earlier :=
        fun earlier before succeeded =>
          Nat.find_min any before ⟨before.trans below, succeeded⟩
      rw [reached_iff_of_first below success first]
      exact decided _ below success first
    · refine iff_of_false ?_ ?_
      · rintro ⟨trial, below, success, -⟩
        exact any ⟨trial, below, success⟩
      · rintro ⟨trial, below, holds⟩
        exact any ⟨trial, below, enough trial holds⟩

/-- Without fatal trials any success is reached. -/
theorem reached_of_harmless (count : Nat) :
    Reached succeeds (fun _ => False) count ↔
      ∃ trial < count, succeeds trial := by
  constructor
  · rintro ⟨trial, below, success, -⟩
    exact ⟨trial, below, success⟩
  · rintro ⟨trial, below, success⟩
    exact ⟨trial, below, success, fun _ _ => not_false⟩

/-- A success is reached whenever there is one, if none is lost to others. -/
theorem reached_iff_exists_succeeds (count : Nat) :
    (Reached succeeds fatal count ↔ ∃ trial < count, succeeds trial) ↔
      ∀ trial < count, succeeds trial →
        (∀ earlier < trial, ¬ succeeds earlier) →
          ∀ earlier < trial, ¬ fatal earlier := by
  rw [reached_iff_exists_iff fun _ success => success]
  refine forall_congr' fun trial => forall_congr' fun below =>
    forall_congr' fun success => forall_congr' fun _ => ?_
  exact iff_true_right ⟨trial, below, success⟩

end

end Windmi.Library
