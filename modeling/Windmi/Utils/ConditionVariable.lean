import Mathlib.Data.List.Basic
import Mathlib.Tactic.Linarith

/-!
# Waiting with a timeout

`ConditionVariable::wait_for` of `utils/Platform`.  The plain wait arms a
deadline its timeout after the moment it is entered, and the wait for a
predicate enters it again after each wake-up at which the predicate is false.
Instants are nanoseconds of the monotonic clock.
-/

namespace Windmi.Utils

/-! ## The arithmetic of the plain wait -/

/-- A timeout in the unit of the clock. -/
def nanoseconds (ms : Nat) : Nat :=
  ms * 1000000

/-- `struct timespec` -/
structure Timespec where
  sec : Nat
  nsec : Nat
  bounded : nsec < 1000000000

def Timespec.instant (ts : Timespec) : Nat :=
  ts.sec * 1000000000 + ts.nsec

def clockGettime (now : Nat) : Timespec where
  sec := now / 1000000000
  nsec := now % 1000000000
  bounded := Nat.mod_lt _ (by decide)

/-- The time that the plain wait passes to `pthread_cond_timedwait`. -/
def Timespec.after (ms : Nat) (ts : Timespec) : Timespec :=
  let nsec := ts.nsec + ms % 1000 * 1000000
  { sec := ts.sec + (ms / 1000 + if nsec ≥ 1000000000 then 1 else 0)
    nsec := if nsec ≥ 1000000000 then nsec - 1000000000 else nsec
    bounded := by
      have fraction := ts.bounded
      split <;> omega }

@[simp]
theorem instant_clockGettime (now : Nat) : (clockGettime now).instant = now :=
  Nat.div_add_mod' now 1000000000

/-- The carry into the seconds is right. -/
theorem Timespec.instant_after (ms : Nat) (ts : Timespec) :
    (ts.after ms).instant = ts.instant + nanoseconds ms := by
  simp only [Timespec.instant, Timespec.after, nanoseconds]
  split <;> omega

/-- The deadline armed by a plain wait that is entered at an instant. -/
def armedDeadline (ms now : Nat) : Nat :=
  ((clockGettime now).after ms).instant

@[simp]
theorem armedDeadline_eq (ms now : Nat) :
    armedDeadline ms now = now + nanoseconds ms := by
  rw [armedDeadline, Timespec.instant_after, instant_clockGettime]

/-! ## The wait for a predicate -/

/-- What wakes the waiting thread, in the order of time. -/
structure WakeUps where
  times : List Nat
  ordered : times.Pairwise (· ≤ ·)

/-- A wait that has timed out. -/
structure TimedWait where
  /-- The deadlines armed, oldest first. -/
  armed : List Nat
  ended : Nat
  /-- The wake-ups after its end. -/
  left : List Nat

/--
The wait entered at an instant, where the predicate is false at every wake-up.
A wake-up before it is entered finds nobody waiting.
-/
def waitFor (ms : Nat) : Nat → List Nat → TimedWait
  | now, [] =>
      { armed := [armedDeadline ms now]
        ended := armedDeadline ms now
        left := [] }
  | now, wake :: later =>
      if wake < now then waitFor ms now later
      else if wake ≤ armedDeadline ms now then
        let again := waitFor ms wake later
        { again with armed := armedDeadline ms now :: again.armed }
      else
        { armed := [armedDeadline ms now]
          ended := armedDeadline ms now
          left := wake :: later }

/-- No wake-up falls between two instants. -/
def Quiet (wakes : List Nat) (start finish : Nat) : Prop :=
  ∀ wake ∈ wakes, wake ≤ start ∨ finish < wake

/-- Wake-ups that are left over after an instant tell nothing of before. -/
theorem quiet_filter_iff {wakes : List Nat} {ended start finish : Nat}
    (before : ended ≤ start) :
    Quiet (wakes.filter (ended < ·)) start finish ↔
      Quiet wakes start finish := by
  unfold Quiet
  simp only [List.mem_filter, decide_eq_true_eq]
  refine forall_congr' fun wake => ⟨fun quiet member => ?_, fun quiet left =>
    quiet left.1⟩
  by_cases late : ended < wake
  · exact quiet ⟨member, late⟩
  · exact Or.inl (by omega)

theorem Quiet.append_iff {wakes : List Nat} {start middle finish : Nat}
    (first : start ≤ middle) (second : middle ≤ finish) :
    Quiet wakes start finish ↔
      Quiet wakes start middle ∧ Quiet wakes middle finish := by
  constructor
  · intro quiet
    constructor
    · exact fun wake member => (quiet wake member).imp id (by omega)
    · exact fun wake member => (quiet wake member).imp (by omega) id
  · rintro ⟨early, late⟩ wake member
    have := early wake member
    have := late wake member
    omega

section

variable (ms : Nat)

theorem waitFor_ended_ge (now : Nat) (wakes : List Nat) :
    now + nanoseconds ms ≤ (waitFor ms now wakes).ended := by
  induction wakes generalizing now with
  | nil => exact (armedDeadline_eq ms now).ge
  | cons wake later ih =>
      simp only [waitFor, armedDeadline_eq]
      split
      · exact ih now
      · split
        · refine le_trans ?_ (ih wake)
          omega
        · exact le_rfl

/-- The wait ends at the deadline armed last, which is the latest one. -/
theorem waitFor_armed_le_iff (now limit : Nat) (wakes : List Nat) :
    (∀ deadline ∈ (waitFor ms now wakes).armed, deadline ≤ limit) ↔
      (waitFor ms now wakes).ended ≤ limit := by
  induction wakes generalizing now with
  | nil => exact List.forall_mem_singleton
  | cons wake later ih =>
      simp only [waitFor, armedDeadline_eq]
      split
      · exact ih now
      · split
        · rw [List.forall_mem_cons, ih wake]
          have reached := waitFor_ended_ge ms wake later
          refine and_iff_right_of_imp fun soon => ?_
          omega
        · exact List.forall_mem_singleton

/-- Only wake-ups that come too late are left. -/
theorem waitFor_left {wakes : List Nat} (ordered : wakes.Pairwise (· ≤ ·))
    (now : Nat) :
    (waitFor ms now wakes).left =
      wakes.filter ((waitFor ms now wakes).ended < ·) := by
  induction wakes generalizing now with
  | nil => rfl
  | cons wake later ih =>
      rw [List.pairwise_cons] at ordered
      have after := ih ordered.2
      have early : ∀ entry, wake ≤ entry + nanoseconds ms →
          (wake :: later).filter ((waitFor ms entry later).ended < ·) =
            (waitFor ms entry later).left := by
        intro entry soon
        have reached := waitFor_ended_ge ms entry later
        rw [List.filter_cons_of_neg (by simp; omega), after entry]
      simp only [waitFor, armedDeadline_eq]
      split
      · exact (early now (by omega)).symm
      · split
        · exact (early wake (by omega)).symm
        · refine (List.filter_eq_self.mpr fun other member => ?_).symm
          rcases List.mem_cons.mp member with rfl | behind
          · simp only [decide_eq_true_eq]
            omega
          · have := ordered.1 other behind
            simp only [decide_eq_true_eq]
            omega

/--
A wait times out when it should exactly when nothing wakes it after it was
entered: every wake-up arms the whole timeout again.
-/
theorem waitFor_ended_le_iff {wakes : List Nat}
    (ordered : wakes.Pairwise (· ≤ ·)) (now : Nat) :
    (waitFor ms now wakes).ended ≤ now + nanoseconds ms ↔
      Quiet wakes now (now + nanoseconds ms) := by
  induction wakes generalizing now with
  | nil =>
      exact iff_of_true (armedDeadline_eq ms now).le (List.forall_mem_nil _)
  | cons wake later ih =>
      rw [List.pairwise_cons] at ordered
      rw [Quiet, List.forall_mem_cons]
      simp only [waitFor, armedDeadline_eq]
      split
      · rw [ih ordered.2]
        exact (and_iff_right (Or.inl (by omega))).symm
      · split
        · have reached := waitFor_ended_ge ms wake later
          by_cases same : wake = now
          · subst same
            rw [ih ordered.2]
            exact (and_iff_right (Or.inl le_rfl)).symm
          · refine iff_of_false ?_ fun quiet => ?_
            · show ¬ (waitFor ms wake later).ended ≤ _
              omega
            · omega
        · refine iff_of_true le_rfl ⟨Or.inr (by omega), ?_⟩
          intro other member
          have := ordered.1 other member
          omega

end

/-! ## Waits in a row -/

/-- Some waits for a predicate, one after the other. -/
def waitRow (ms : Nat) : Nat → Nat → List Nat → Nat × List Nat
  | 0, now, wakes => (now, wakes)
  | count + 1, now, wakes =>
      let wait := waitFor ms now wakes
      waitRow ms count wait.ended wait.left

section

variable (ms : Nat)

theorem waitRow_ge (count now : Nat) (wakes : List Nat) :
    now + count * nanoseconds ms ≤ (waitRow ms count now wakes).1 := by
  induction count generalizing now wakes with
  | zero => rw [Nat.zero_mul, Nat.add_zero, waitRow]
  | succ count ih =>
      have first := waitFor_ended_ge ms now wakes
      rw [waitRow, Nat.succ_mul]
      refine le_trans ?_ (ih _ _)
      omega

variable {wakes : List Nat} (ordered : wakes.Pairwise (· ≤ ·))

include ordered

theorem waitFor_left_ordered (now : Nat) :
    (waitFor ms now wakes).left.Pairwise (· ≤ ·) := by
  rw [waitFor_left ms ordered]
  exact ordered.filter _

/-- After a wait nothing is known of the wake-ups before its end. -/
theorem waitFor_left_quiet_iff (now : Nat) {start finish : Nat}
    (after : (waitFor ms now wakes).ended ≤ start) :
    Quiet (waitFor ms now wakes).left start finish ↔
      Quiet wakes start finish := by
  rw [waitFor_left ms ordered]
  exact quiet_filter_iff after

theorem waitRow_left_ordered (count now : Nat) :
    (waitRow ms count now wakes).2.Pairwise (· ≤ ·) := by
  induction count generalizing now wakes with
  | zero => exact ordered
  | succ count ih => exact ih (waitFor_left_ordered ms ordered now) _

theorem waitRow_left_quiet_iff (count now : Nat) {start finish : Nat}
    (after : (waitRow ms count now wakes).1 ≤ start) :
    Quiet (waitRow ms count now wakes).2 start finish ↔
      Quiet wakes start finish := by
  induction count generalizing now wakes with
  | zero => exact Iff.rfl
  | succ count ih =>
      have still := waitFor_left_ordered ms ordered now
      have longer := waitRow_ge ms count
        (waitFor ms now wakes).ended (waitFor ms now wakes).left
      have before : (waitFor ms now wakes).ended ≤ start :=
        (Nat.le_of_add_right_le longer).trans after
      exact (ih still _ after).trans
        (waitFor_left_quiet_iff ms ordered now before)

/-- Waits in a row end on time exactly when nothing wakes the thread. -/
theorem waitRow_punctual_iff (count now : Nat) :
    (waitRow ms count now wakes).1 ≤ now + count * nanoseconds ms ↔
      Quiet wakes now (now + count * nanoseconds ms) := by
  induction count generalizing now wakes with
  | zero =>
      refine iff_of_true (by rw [Nat.zero_mul, Nat.add_zero, waitRow])
        fun wake _ => ?_
      omega
  | succ count ih =>
      have first := waitFor_ended_le_iff ms ordered now
      have reached := waitFor_ended_ge ms now wakes
      have rest := ih (waitFor_left_ordered ms ordered now)
        (waitFor ms now wakes).ended
      rw [waitFor_left_quiet_iff ms ordered now le_rfl] at rest
      have total : now + (count + 1) * nanoseconds ms =
          now + nanoseconds ms + count * nanoseconds ms := by
        rw [Nat.succ_mul]
        omega
      rw [total, Quiet.append_iff (Nat.le_add_right ..)
        (Nat.le_add_right ..), ← first, waitRow]
      generalize waitFor ms now wakes = wait at *
      have longer := waitRow_ge ms count wait.ended wait.left
      constructor
      · intro ends
        have punctual : wait.ended = now + nanoseconds ms := by
          omega
        rw [← punctual] at ends ⊢
        exact ⟨le_rfl, rest.mp ends⟩
      · rintro ⟨soon, quiet⟩
        have punctual : wait.ended = now + nanoseconds ms :=
          le_antisymm soon reached
        rw [← punctual] at quiet ⊢
        exact rest.mpr quiet

end

end Windmi.Utils
