import Mathlib.Data.List.Induction
import Mathlib.Tactic.Tauto

/-!
# Invariants of runs

A run feeds a list of inputs to a step function.  What every step of one given
run preserves holds before each of its steps, where the step may rely on its
place in the run.
-/

namespace Windmi.Library

variable {State Input : Type*}

/-- An invariant which each step of this run preserves holds all along it. -/
theorem foldl_invariant (step : State → Input → State)
    (invariant : State → Prop) {start : State} {inputs : List Input}
    (initial : invariant start)
    (preserved : ∀ earlier input later,
      inputs = earlier ++ input :: later →
        invariant (earlier.foldl step start) →
          invariant (step (earlier.foldl step start) input))
    (earlier later : List Input) (split : inputs = earlier ++ later) :
    invariant (earlier.foldl step start) := by
  induction earlier using List.reverseRecOn generalizing later with
  | nil => exact initial
  | append_singleton earlier input ih =>
      have reached := ih (input :: later) (by simpa using split)
      rw [List.foldl_append]
      exact preserved earlier input later (by simpa using split) reached

/-- A call which begins if there is none already is like the one before. -/
theorem forall_mem_or {Call : Type*} {property : Call → Prop}
    {current : Option Call} {fresh : Call}
    (going : ∀ call ∈ current, property call) (starts : property fresh) :
    ∀ call ∈ current.or (some fresh), property call := by
  intro call begun
  rcases Option.or_eq_some_iff.mp begun with before | ⟨-, same⟩
  · exact going call before
  · cases same
    exact starts

/-! ## Events along a run -/

/-- Some step of the run is an event, in the state before it. -/
def Happens (step : State → Input → State) (event : State → Input → Prop)
    (start : State) (inputs : List Input) : Prop :=
  ∃ earlier input later, inputs = earlier ++ input :: later ∧
    event (earlier.foldl step start) input

/-- Some step of the run sets a flag which no later step clears. -/
def Standing (step : State → Input → State)
    (sets clears : State → Input → Prop) (start : State)
    (inputs : List Input) : Prop :=
  ∃ earlier input later, inputs = earlier ++ input :: later ∧
    sets (earlier.foldl step start) input ∧
      ¬ Happens step clears (step (earlier.foldl step start) input) later

/-- A place in a list is its head or a place in its tail. -/
theorem exists_split_cons {input : Input} {inputs : List Input}
    (property : List Input → Input → List Input → Prop) :
    (∃ earlier next later, input :: inputs = earlier ++ next :: later ∧
        property earlier next later) ↔
      property [] input inputs ∨
        ∃ earlier next later, inputs = earlier ++ next :: later ∧
          property (input :: earlier) next later := by
  constructor
  · rintro ⟨_ | ⟨first, earlier⟩, next, later, split, holds⟩
    · cases split
      exact Or.inl holds
    · cases split
      exact Or.inr ⟨earlier, next, later, rfl, holds⟩
  · rintro (now | ⟨earlier, next, later, rfl, holds⟩)
    · exact ⟨[], input, inputs, rfl, now⟩
    · exact ⟨input :: earlier, next, later, rfl, holds⟩

section

variable {step : State → Input → State} {event : State → Input → Prop}
  {sets clears : State → Input → Prop}

@[simp]
theorem not_happens_nil (start : State) :
    ¬ Happens step event start [] := by
  rintro ⟨earlier, input, later, split, -⟩
  cases earlier <;> cases split

theorem happens_cons {start : State} {input : Input} {inputs : List Input} :
    Happens step event start (input :: inputs) ↔
      event start input ∨ Happens step event (step start input) inputs :=
  exists_split_cons fun earlier next _ => event (earlier.foldl step start) next

@[simp]
theorem not_standing_nil (start : State) :
    ¬ Standing step sets clears start [] := by
  rintro ⟨earlier, input, later, split, -⟩
  cases earlier <;> cases split

theorem standing_cons {start : State} {input : Input}
    {inputs : List Input} :
    Standing step sets clears start (input :: inputs) ↔
      (sets start input ∧
          ¬ Happens step clears (step start input) inputs) ∨
        Standing step sets clears (step start input) inputs :=
  exists_split_cons fun earlier next later =>
    sets (earlier.foldl step start) next ∧
      ¬ Happens step clears (step (earlier.foldl step start) next) later

/-- A latch is up if it was set last, or was up and never cleared. -/
theorem latch_iff {flag : State → Prop}
    (latches : ∀ state input, flag (step state input) ↔
      sets state input ∨ (flag state ∧ ¬ clears state input))
    (start : State) (inputs : List Input) :
    flag (inputs.foldl step start) ↔
      Standing step sets clears start inputs ∨
        (flag start ∧ ¬ Happens step clears start inputs) := by
  induction inputs generalizing start with
  | nil => simp
  | cons input inputs ih =>
      rw [List.foldl_cons, ih, latches, standing_cons, happens_cons]
      tauto

/-- Every step of the run is admissible in the state before it. -/
def Throughout (step : State → Input → State)
    (admissible : State → Input → Prop) (start : State)
    (inputs : List Input) : Prop :=
  ∀ earlier input later, inputs = earlier ++ input :: later →
    admissible (earlier.foldl step start) input

variable {admissible : State → Input → Prop}

@[simp]
theorem throughout_nil (start : State) :
    Throughout step admissible start [] := by
  intro earlier input later split
  cases earlier <;> cases split

theorem throughout_cons {start : State} {input : Input}
    {inputs : List Input} :
    Throughout step admissible start (input :: inputs) ↔
      admissible start input ∧
        Throughout step admissible (step start input) inputs := by
  constructor
  · intro all
    refine ⟨all [] input inputs rfl, ?_⟩
    intro earlier next later split
    exact all (input :: earlier) next later (by rw [split]; rfl)
  · rintro ⟨now, rest⟩ (_ | ⟨first, earlier⟩) next later split
    · cases split
      exact now
    · cases split
      exact rest earlier next later rfl

instance Throughout.decidable
    [∀ state input, Decidable (admissible state input)] :
    (start : State) → (inputs : List Input) →
      Decidable (Throughout step admissible start inputs)
  | start, [] => isTrue (throughout_nil start)
  | start, input :: inputs =>
      have : Decidable
          (Throughout step admissible (step start input) inputs) :=
        Throughout.decidable (step start input) inputs
      decidable_of_iff _ throughout_cons.symm

theorem Throughout.imp {weaker : State → Input → Prop} {start : State}
    {inputs : List Input} (all : Throughout step admissible start inputs)
    (weaken : ∀ state input, admissible state input → weaker state input) :
    Throughout step weaker start inputs :=
  fun earlier input later split => weaken _ _ (all earlier input later split)

/-- A preorder that each step of a run follows relates all of its states. -/
theorem Throughout.related {relation : State → State → Prop}
    (refl : ∀ state, relation state state)
    (trans : ∀ first second third, relation first second →
      relation second third → relation first third)
    {start : State} {inputs : List Input}
    (follows : Throughout step
      (fun state input => relation state (step state input)) start inputs)
    (earlier between later : List Input)
    (split : inputs = earlier ++ between ++ later) :
    relation (earlier.foldl step start)
      ((earlier ++ between).foldl step start) := by
  induction between using List.reverseRecOn generalizing later with
  | nil =>
      rw [List.append_nil]
      exact refl _
  | append_singleton between input ih =>
      have reached := ih (input :: later) (by simpa using split)
      have moved := follows (earlier ++ between) input later
        (by simpa using split)
      rw [← List.append_assoc, List.foldl_append]
      exact trans _ _ _ reached moved

/--
What survives a step exactly if the step is admissible, as long as an
invariant of the run holds.
-/
theorem conserved_iff_of_invariant {invariant flag : State → Prop}
    {start : State} {inputs : List Input} (initial : invariant start)
    (preserved : ∀ state, ∀ input ∈ inputs,
      invariant state → invariant (step state input))
    (conserves : ∀ state, ∀ input ∈ inputs, invariant state →
      (flag (step state input) ↔ flag state ∧ admissible state input)) :
    flag (inputs.foldl step start) ↔
      flag start ∧ Throughout step admissible start inputs := by
  induction inputs generalizing start with
  | nil => simp
  | cons input inputs ih =>
      have inside := @List.mem_cons_self _ input inputs
      have head := conserves start input inside initial
      have tail := ih (preserved start input inside initial)
        (fun state next member =>
          preserved state next (List.mem_cons_of_mem input member))
        (fun state next member =>
          conserves state next (List.mem_cons_of_mem input member))
      rw [List.foldl_cons, tail, throughout_cons, head, and_assoc]

/-- What survives a step exactly if the step is admissible. -/
theorem conserved_iff {flag : State → Prop} {start : State}
    {inputs : List Input}
    (conserves : ∀ state, ∀ input ∈ inputs,
      flag (step state input) ↔ flag state ∧ admissible state input) :
    flag (inputs.foldl step start) ↔
      flag start ∧ Throughout step admissible start inputs :=
  @conserved_iff_of_invariant _ _ step admissible (fun _ => True) flag start
    inputs trivial (fun _ _ _ _ => trivial)
    fun state input member _ => conserves state input member

/-- What spoils a state once and for all does so along any run. -/
theorem foldl_spoiled {bad : State → Prop}
    (lasts : ∀ state input, bad state → bad (step state input))
    {start : State} (spoiled : bad start) (inputs : List Input) :
    bad (inputs.foldl step start) := by
  induction inputs generalizing start with
  | nil => exact spoiled
  | cons input inputs ih => exact ih (lasts start input spoiled)

/--
If admissible steps keep a state good, and any other spoils it for good, then
what only good states lead to says that the run was admissible throughout.
-/
theorem throughout_iff_of_spoiled {good bad outcome : State → Prop}
    (keeps : ∀ state input, good state → admissible state input →
      good (step state input))
    (spoils : ∀ state input, good state → ¬ admissible state input →
      bad (step state input))
    (lasts : ∀ state input, bad state → bad (step state input))
    (accepts : ∀ state, good state → outcome state)
    (rejects : ∀ state, bad state → ¬ outcome state)
    {start : State} (initial : good start) (inputs : List Input) :
    outcome (inputs.foldl step start) ↔
      Throughout step admissible start inputs := by
  induction inputs generalizing start with
  | nil => exact iff_of_true (accepts start initial) (throughout_nil start)
  | cons input inputs ih =>
      rw [List.foldl_cons, throughout_cons]
      by_cases now : admissible start input
      · rw [and_iff_right now]
        exact ih (keeps start input initial now)
      · have spoiled := foldl_spoiled lasts (spoils start input initial now)
          inputs
        exact iff_of_false (rejects _ spoiled) fun all => now all.1

end

/-! ## Progress -/

section

variable [DecidableEq Input] {step : State → Input → State}
  {invariant : State → Prop} {measure : State → Nat} {counted : Input}

/-- A measure that no step raises is lowered by every step that counts. -/
theorem measure_foldl_le
    (kept : ∀ state input, invariant state → invariant (step state input))
    (falls : ∀ state input, invariant state →
      measure (step state input) ≤
        measure state - (if input = counted then 1 else 0))
    {start : State} (holds : invariant start) (inputs : List Input) :
    measure (inputs.foldl step start) ≤
      measure start - inputs.count counted := by
  induction inputs generalizing start with
  | nil => exact Nat.le_refl _
  | cons input inputs ih =>
      have now := falls start input holds
      have later := ih (kept start input holds)
      rw [List.foldl_cons, List.count_cons]
      simp only [beq_iff_eq]
      omega

/-- As many of these steps as the measure bring it to zero. -/
theorem measure_foldl_eq_zero
    (kept : ∀ state input, invariant state → invariant (step state input))
    (falls : ∀ state input, invariant state →
      measure (step state input) ≤
        measure state - (if input = counted then 1 else 0))
    {start : State} (holds : invariant start) {inputs : List Input}
    (enough : measure start ≤ inputs.count counted) :
    measure (inputs.foldl step start) = 0 := by
  have left := measure_foldl_le kept falls holds inputs
  rw [Nat.sub_eq_zero_of_le enough] at left
  exact Nat.le_zero.mp left

end

end Windmi.Library
