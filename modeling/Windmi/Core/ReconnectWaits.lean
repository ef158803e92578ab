import Windmi.Core.Registers
import Windmi.Utils.ConditionVariable

/-!
# The waits between two attempts to connect

The reconnect loop of `ControlLoop::threadFunc` with the time it takes, for
connections that cannot be opened and a loop that is not asked to stop.  Every
`kick` wakes the waiting thread, which then waits for the whole interval again.
-/

namespace Windmi.Core

open Windmi.Utils

/-- `MODBUS_RECONNECT_INTERVAL_S` -/
def modbusReconnectIntervalS : Nat := 10

/-- The timeout of each wait of the loop. -/
def reconnectMs : Nat :=
  modbusReconnectIntervalS * 1000

/-- The thread before an attempt to connect, with the kicks to come. -/
structure Reconnecting where
  now : Nat
  retries : Nat := 0
  kicks : List Nat := []

/-- A failed attempt, and when the next one begins. -/
structure Retry where
  failedAt : Nat
  waits : Nat
  next : Nat
  deriving DecidableEq

/--
An attempt which fails after some time.  The third one in a row ends the inner
loop, and a second wait precedes the next round of the main loop.
-/
def failedConnect (thread : Reconnecting) (duration : Nat) :
    Retry × Reconnecting :=
  let failedAt := thread.now + duration
  let retries := thread.retries + 1
  let exhausted := retries ≥ modbusMaxRetries
  let waits := if exhausted then 2 else 1
  let waited := waitRow reconnectMs waits failedAt thread.kicks
  ({ failedAt := failedAt, waits := waits, next := waited.1 },
    { now := waited.1
      retries := if exhausted then 0 else retries
      kicks := waited.2 })

/-- The attempts of a run, given how long each takes to fail. -/
def failedConnects (thread : Reconnecting) : List Nat → List Retry
  | [] => []
  | duration :: durations =>
      (failedConnect thread duration).1 ::
        failedConnects (failedConnect thread duration).2 durations

/-- No wait before the next attempt is longer than its timeout. -/
def Retry.Punctual (retry : Retry) : Prop :=
  retry.next ≤ retry.failedAt + retry.waits * nanoseconds reconnectMs

/-- The next attempt begins an interval after the failed one. -/
def Retry.Prompt (retry : Retry) : Prop :=
  retry.next ≤ retry.failedAt + nanoseconds reconnectMs

/-- The same thread when nobody kicks it. -/
def Reconnecting.undisturbed (thread : Reconnecting) : Reconnecting :=
  { thread with kicks := [] }

/-! ## One attempt -/

theorem waitRow_nil (ms count now : Nat) :
    waitRow ms count now [] = (now + count * nanoseconds ms, []) := by
  induction count generalizing now with
  | zero => rw [waitRow, Nat.zero_mul, Nat.add_zero]
  | succ count ih =>
      rw [waitRow, waitFor, ih, armedDeadline_eq, Nat.succ_mul]
      refine Prod.ext ?_ rfl
      show now + nanoseconds ms + count * nanoseconds ms = _
      omega

section

variable {thread : Reconnecting} (duration : Nat)

theorem failedConnect_undisturbed :
    failedConnect thread.undisturbed duration =
      let failed := (failedConnect thread duration).1
      let next := failed.failedAt + failed.waits * nanoseconds reconnectMs
      ({ failed with next := next },
        { now := next
          retries := (failedConnect thread duration).2.retries
          kicks := [] }) := by
  simp only [failedConnect, Reconnecting.undisturbed, waitRow_nil]
  rfl

theorem failedConnect_next_ge :
    (failedConnect thread duration).1.failedAt +
        (failedConnect thread duration).1.waits * nanoseconds reconnectMs ≤
      (failedConnect thread duration).1.next :=
  waitRow_ge reconnectMs ..

/-- After a punctual attempt the thread is where it would be anyway. -/
theorem failedConnect_undisturbed_next
    (punctual : (failedConnect thread duration).1.Punctual) :
    (failedConnect thread duration).2.undisturbed =
      (failedConnect thread.undisturbed duration).2 := by
  have reached : (failedConnect thread duration).2.now =
      (failedConnect thread duration).1.failedAt +
        (failedConnect thread duration).1.waits * nanoseconds reconnectMs :=
    le_antisymm punctual (failedConnect_next_ge duration)
  rw [failedConnect_undisturbed, Reconnecting.undisturbed, reached]

variable (ordered : thread.kicks.Pairwise (· ≤ ·))

include ordered

theorem failedConnect_ordered :
    (failedConnect thread duration).2.kicks.Pairwise (· ≤ ·) :=
  waitRow_left_ordered reconnectMs ordered ..

theorem failedConnect_quiet_iff {start finish : Nat}
    (after : (failedConnect thread duration).2.now ≤ start) :
    Utils.Quiet (failedConnect thread duration).2.kicks start finish ↔
      Utils.Quiet thread.kicks start finish :=
  waitRow_left_quiet_iff reconnectMs ordered _ _ after

theorem failedConnect_punctual_iff :
    (failedConnect thread duration).1.Punctual ↔
      Utils.Quiet thread.kicks
        (failedConnect thread.undisturbed duration).1.failedAt
        (failedConnect thread.undisturbed duration).1.next := by
  rw [failedConnect_undisturbed]
  exact waitRow_punctual_iff reconnectMs ordered ..

end

/-! ## A run of failing attempts -/

theorem failedConnects_failedAt_ge (thread : Reconnecting)
    (durations : List Nat) :
    ∀ retry ∈ failedConnects thread durations,
      thread.now ≤ retry.failedAt := by
  induction durations generalizing thread with
  | nil => exact List.forall_mem_nil _
  | cons duration durations ih =>
      rw [failedConnects, List.forall_mem_cons]
      have begun : thread.now ≤ (failedConnect thread duration).1.failedAt :=
        Nat.le_add_right ..
      have waited : (failedConnect thread duration).1.failedAt ≤
          (failedConnect thread duration).2.now :=
        Nat.le_of_add_right_le (failedConnect_next_ge duration)
      exact ⟨begun, fun retry later =>
        (begun.trans waited).trans (ih _ retry later)⟩

/-- The waits which the thread would make if nobody kicked it. -/
def QuietWaits (kicks : List Nat) (retries : List Retry) : Prop :=
  ∀ retry ∈ retries, Utils.Quiet kicks retry.failedAt retry.next

/--
Every wait of a run ends on time exactly when no kick falls into a wait of the
run without kicks.
-/
theorem failedConnects_punctual_iff {thread : Reconnecting}
    (ordered : thread.kicks.Pairwise (· ≤ ·)) (durations : List Nat) :
    (∀ retry ∈ failedConnects thread durations, retry.Punctual) ↔
      QuietWaits thread.kicks
        (failedConnects thread.undisturbed durations) := by
  induction durations generalizing thread with
  | nil => exact iff_of_true (List.forall_mem_nil _) (List.forall_mem_nil _)
  | cons duration durations ih =>
      rw [QuietWaits, failedConnects, failedConnects, List.forall_mem_cons,
        List.forall_mem_cons, ← failedConnect_punctual_iff duration ordered]
      refine and_congr_right fun punctual => ?_
      rw [ih (failedConnect_ordered duration ordered),
        failedConnect_undisturbed_next duration punctual]
      refine forall₂_congr fun retry member => ?_
      apply failedConnect_quiet_iff duration ordered
      rw [← failedConnect_undisturbed_next duration punctual] at member
      exact failedConnects_failedAt_ge
        (failedConnect thread duration).2.undisturbed durations retry member

/-- An attempt is prompt if it is punctual and not the third in a row. -/
theorem failedConnect_prompt_iff {thread : Reconnecting} (duration : Nat) :
    (failedConnect thread duration).1.Prompt ↔
      thread.retries + 1 < modbusMaxRetries ∧
        (failedConnect thread duration).1.Punctual := by
  have least := @failedConnect_next_ge thread duration
  have long : 0 < nanoseconds reconnectMs := by
    decide
  rw [Retry.Prompt, Retry.Punctual]
  by_cases exhausted : thread.retries + 1 ≥ modbusMaxRetries
  · have waits : (failedConnect thread duration).1.waits = 2 :=
      if_pos exhausted
    rw [waits] at least ⊢
    omega
  · have waits : (failedConnect thread duration).1.waits = 1 :=
      if_neg exhausted
    rw [waits]
    omega

/-- At most two attempts in a row are all followed by another in time. -/
theorem failedConnects_prompt_iff {thread : Reconnecting}
    (durations : List Nat) (early : thread.retries < modbusMaxRetries) :
    (∀ retry ∈ failedConnects thread durations, retry.Prompt) ↔
      thread.retries + durations.length < modbusMaxRetries ∧
        ∀ retry ∈ failedConnects thread durations, retry.Punctual := by
  induction durations generalizing thread with
  | nil =>
      exact iff_of_true (List.forall_mem_nil _)
        ⟨early, List.forall_mem_nil _⟩
  | cons duration durations ih =>
      rw [failedConnects, List.forall_mem_cons, List.forall_mem_cons,
        failedConnect_prompt_iff, List.length_cons]
      by_cases more : thread.retries + 1 < modbusMaxRetries
      · have retries : (failedConnect thread duration).2.retries =
            thread.retries + 1 :=
          if_neg (by omega)
        have rest := ih (retries ▸ more)
        rw [retries] at rest
        rw [rest]
        constructor
        · rintro ⟨⟨-, first⟩, few, later⟩
          exact ⟨by omega, first, later⟩
        · rintro ⟨few, first, later⟩
          exact ⟨⟨more, first⟩, by omega, later⟩
      · refine iff_of_false (fun prompt => more prompt.1.1) fun few => ?_
        omega

/--
A wait for a predicate keeps its timeout exactly when no wake-up at which the
predicate is false comes after the moment it is entered; an outage is retried
with the interval of the configuration exactly when no kick falls into a wait,
and an interval apart only up to the third attempt.
-/
theorem predicate_wait_bounded_iff (ms entry : Nat) (wakes : WakeUps)
    (now : Nat) (kicks : WakeUps) (durations : List Nat) :
    ((∀ deadline ∈ (waitFor ms entry wakes.times).armed,
        deadline ≤ entry + nanoseconds ms) ↔
      Utils.Quiet wakes.times entry (entry + nanoseconds ms)) ∧
    let kicked :=
      failedConnects { now := now, kicks := kicks.times } durations
    let undisturbed := failedConnects { now := now } durations
    ((∀ retry ∈ kicked, retry.Punctual) ↔
      QuietWaits kicks.times undisturbed) ∧
    ((∀ retry ∈ kicked, retry.Prompt) ↔
      durations.length < modbusMaxRetries ∧
        QuietWaits kicks.times undisturbed) := by
  constructor
  · rw [waitFor_armed_le_iff]
    exact waitFor_ended_le_iff ms wakes.ordered entry
  · intro kicked undisturbed
    let thread : Reconnecting := { now := now, kicks := kicks.times }
    have punctual : (∀ retry ∈ kicked, retry.Punctual) ↔
        QuietWaits kicks.times undisturbed :=
      @failedConnects_punctual_iff thread kicks.ordered durations
    refine ⟨punctual, ?_⟩
    rw [← punctual]
    have prompt := @failedConnects_prompt_iff thread durations
      (Nat.zero_lt_succ 2)
    rw [show thread.retries = 0 from rfl, Nat.zero_add] at prompt
    exact prompt

/-- A kick every five seconds for a minute. -/
def impatient : WakeUps where
  times := (List.range 12).map fun count => (count + 1) * 5000000000
  ordered := by decide

/-- The thread kicked so connects again after 70 seconds instead of 10. -/
theorem impatient_postpones :
    (waitFor 10000 0 impatient.times).ended = 70000000000 ∧
      ¬ (∀ deadline ∈ (waitFor 10000 0 impatient.times).armed,
        deadline ≤ 0 + nanoseconds 10000) ∧
      failedConnects { now := 0, kicks := impatient.times } [0] =
        [{ failedAt := 0, waits := 1, next := 70000000000 }] := by
  decide +kernel

end Windmi.Core
