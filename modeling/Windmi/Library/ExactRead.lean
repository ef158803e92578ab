import Mathlib.Data.List.Basic
import Mathlib.Logic.Basic

/-!
# Reading an exact number of items

Many interfaces hand out what they have in chunks, at most as much as asked
for, and nothing at all when they fail.  The loop which collects an exact
number of items from such a source is analysed here once: it takes a prefix of
what the source contains, and from a source that gives what it has it succeeds
whenever there is enough.
-/

namespace Windmi.Library

variable {State Item : Type*}

/-- Collect `expected` items, in at most `fuel` reads. -/
def readExactly (read : Nat → State → List Item × State) :
    Nat → Nat → State → Option (List Item) × State
  | _, 0, state => (some [], state)
  | 0, _ + 1, state => (none, state)
  | fuel + 1, missing + 1, state =>
      let received := read (missing + 1) state
      if received.1 = [] then
        (none, received.2)
      else
        let rest := readExactly read fuel
          (missing + 1 - received.1.length) received.2
        (rest.1.map fun items => received.1 ++ items, rest.2)

/-- The number of items which the loop has collected when it ends. -/
def collected (read : Nat → State → List Item × State) :
    Nat → Nat → State → Nat
  | _, 0, _ => 0
  | 0, _ + 1, _ => 0
  | fuel + 1, missing + 1, state =>
      let received := read (missing + 1) state
      if received.1 = [] then
        0
      else
        received.1.length +
          collected read fuel (missing + 1 - received.1.length) received.2

/-- The loop never collects more than it was asked for. -/
theorem collected_le {read : Nat → State → List Item × State}
    (length_le : ∀ limit state, (read limit state).1.length ≤ limit)
    (fuel expected : Nat) (state : State) :
    collected read fuel expected state ≤ expected := by
  induction fuel generalizing expected state with
  | zero => cases expected <;> exact Nat.zero_le _
  | succ fuel ih =>
      cases expected with
      | zero => exact Nat.zero_le _
      | succ missing =>
          have fits := length_le (missing + 1) state
          have rest := ih (missing + 1 - (read (missing + 1) state).1.length)
            (read (missing + 1) state).2
          simp only [collected]
          split
          · exact Nat.zero_le _
          · omega

/-- What each read preserves is preserved by the loop. -/
theorem readExactly_preserves {read : Nat → State → List Item × State}
    (invariant : State → Prop)
    (preserved : ∀ limit state, invariant state →
      invariant (read limit state).2)
    (fuel expected : Nat) {state : State} (start : invariant state) :
    invariant (readExactly read fuel expected state).2 := by
  induction fuel generalizing expected state with
  | zero =>
      cases expected with
      | zero => exact start
      | succ missing => exact start
  | succ fuel ih =>
      cases expected with
      | zero => exact start
      | succ missing =>
          have next := preserved (missing + 1) state start
          simp only [readExactly]
          split
          · exact next
          · exact ih _ next

/--
A relation between the states before and after reads and the items handed over
between them, which holds of each read and composes.
-/
structure Accounted (read : Nat → State → List Item × State)
    (relation : State → List Item → State → Prop) : Prop where
  nothing : ∀ state, relation state [] state
  append : ∀ {first second before middle after},
    relation before first middle → relation middle second after →
      relation before (first ++ second) after
  chunk : ∀ limit state,
    relation state (read limit state).1 (read limit state).2
  length_le : ∀ limit state, (read limit state).1.length ≤ limit

/-- The loop is accounted for as a whole, also where it fails. -/
theorem Accounted.readExactly {read : Nat → State → List Item × State}
    {relation : State → List Item → State → Prop}
    (accounted : Accounted read relation) {fuel expected : Nat}
    (enough : expected ≤ fuel) (state : State) :
    ∃ taken,
      relation state taken (readExactly read fuel expected state).2 ∧
        ∀ items, (Library.readExactly read fuel expected state).1 =
            some items →
          items = taken ∧ items.length = expected := by
  induction fuel generalizing expected state with
  | zero =>
      rcases Nat.le_zero.mp enough with rfl
      refine ⟨[], accounted.nothing state, ?_⟩
      rintro items ⟨⟩
      exact ⟨rfl, rfl⟩
  | succ fuel ih =>
      cases expected with
      | zero =>
          refine ⟨[], accounted.nothing state, ?_⟩
          rintro items ⟨⟩
          exact ⟨rfl, rfl⟩
      | succ missing =>
          have chunk := accounted.chunk (missing + 1) state
          have fits := accounted.length_le (missing + 1) state
          simp only [Library.readExactly]
          by_cases nothing : (read (missing + 1) state).1 = []
          · rw [if_pos nothing]
            rw [nothing] at chunk
            refine ⟨[], chunk, fun items impossible => ?_⟩
            cases impossible
          · rw [if_neg nothing]
            have progress := List.length_pos_iff.mpr nothing
            rcases ih (by omega : missing + 1 -
                (read (missing + 1) state).1.length ≤ fuel)
              (read (missing + 1) state).2 with
              ⟨taken, rest, exact⟩
            refine ⟨(read (missing + 1) state).1 ++ taken,
              accounted.append chunk rest, ?_⟩
            intro items success
            rcases Option.map_eq_some_iff.mp success with ⟨tail, found, rfl⟩
            rcases exact tail found with ⟨rfl, length⟩
            refine ⟨rfl, ?_⟩
            rw [List.length_append, length]
            omega

/-- A view of the state through which the reads can be followed. -/
theorem readExactly_map {Other : Type*} (view : State → Other)
    {read : Nat → State → List Item × State}
    {readOther : Nat → Other → List Item × Other}
    (follows : ∀ limit state,
      readOther limit (view state) =
        ((read limit state).1, view (read limit state).2))
    (fuel expected : Nat) (state : State) :
    readExactly readOther fuel expected (view state) =
      ((readExactly read fuel expected state).1,
        view (readExactly read fuel expected state).2) := by
  induction fuel generalizing expected state with
  | zero =>
      cases expected with
      | zero => rfl
      | succ missing => rfl
  | succ fuel ih =>
      cases expected with
      | zero => rfl
      | succ missing =>
          simp only [readExactly, follows, ih]
          split <;> rfl

/--
A source of items: each read takes a prefix of what it contains, of the length
asked for at most.
-/
structure Sequential (read : Nat → State → List Item × State)
    (contents : State → List Item) : Prop where
  append : ∀ limit state,
    (read limit state).1 ++ contents (read limit state).2 = contents state
  length_le : ∀ limit state, (read limit state).1.length ≤ limit

section

variable {read : Nat → State → List Item × State}
  {contents : State → List Item}

theorem Sequential.accounted (source : Sequential read contents) :
    Accounted read fun before items after =>
      items ++ contents after = contents before where
  nothing _ := rfl
  append first second := by
    rw [List.append_assoc, second, first]
  chunk := source.append
  length_le := source.length_le

/-- The loop as well takes a prefix, of the exact length if it succeeds. -/
theorem Sequential.readExactly_append (source : Sequential read contents)
    {fuel expected : Nat} (enough : expected ≤ fuel) (state : State) :
    ∃ taken,
      taken ++ contents (readExactly read fuel expected state).2 =
          contents state ∧
        ∀ items, (readExactly read fuel expected state).1 = some items →
          items = taken ∧ items.length = expected :=
  source.accounted.readExactly enough state

/--
In the states of an invariant the source gives something whenever it contains
something.
-/
structure Prompt (read : Nat → State → List Item × State)
    (contents : State → List Item) (invariant : State → Prop) : Prop where
  preserved : ∀ limit state, invariant state →
    invariant (read limit state).2
  nonempty : ∀ limit state, invariant state → contents state ≠ [] →
    0 < limit → (read limit state).1 ≠ []

/-- A prompt source hands over the next items, whatever the chunks. -/
theorem Sequential.readExactly_prompt (source : Sequential read contents)
    {invariant : State → Prop} (prompt : Prompt read contents invariant)
    {fuel expected : Nat} (enough : expected ≤ fuel) {state : State}
    (start : invariant state) {items rest : List Item}
    (holds : contents state = items ++ rest)
    (length : items.length = expected) :
    (readExactly read fuel expected state).1 = some items ∧
      contents (readExactly read fuel expected state).2 = rest := by
  induction fuel generalizing expected state items with
  | zero =>
      rcases Nat.le_zero.mp enough with rfl
      rcases List.length_eq_zero_iff.mp length with rfl
      exact ⟨rfl, holds⟩
  | succ fuel ih =>
      cases expected with
      | zero =>
          rcases List.length_eq_zero_iff.mp length with rfl
          exact ⟨rfl, holds⟩
      | succ missing =>
          have split := source.append (missing + 1) state
          have fits := source.length_le (missing + 1) state
          have something : contents state ≠ [] := by
            rw [holds]
            intro nothing
            rw [(List.append_eq_nil_iff.mp nothing).1] at length
            exact Nat.succ_ne_zero missing length.symm
          have given := prompt.nonempty (missing + 1) state start something
            (Nat.succ_pos missing)
          have progress := List.length_pos_iff.mpr given
          -- The chunk is a prefix of the items, since it is not longer.
          obtain ⟨tail, rfl⟩ :
              ∃ tail, items = (read (missing + 1) state).1 ++ tail := by
            have prefixes := List.append_eq_append_iff.mp
              (split.trans holds)
            rcases prefixes with ⟨tail, equal, -⟩ | ⟨tail, equal, -⟩
            · exact ⟨tail, equal⟩
            · refine ⟨[], ?_⟩
              have nil : tail.length = 0 := by
                have total := congrArg List.length equal
                rw [List.length_append] at total
                omega
              rw [List.length_eq_zero_iff.mp nil, List.append_nil] at equal
              rw [equal, List.append_nil]
          rw [holds, List.append_assoc] at split
          rw [List.length_append] at length
          rcases ih
            (by omega : missing + 1 - (read (missing + 1) state).1.length
              ≤ fuel)
            (prompt.preserved (missing + 1) state start)
            (List.append_cancel_left split) (by omega) with
            ⟨found, remains⟩
          simp only [readExactly]
          rw [if_neg given]
          refine ⟨?_, remains⟩
          rw [found]
          rfl

/-- A prompt source which contains too little is emptied in vain. -/
theorem Sequential.readExactly_short (source : Sequential read contents)
    {invariant : State → Prop} (prompt : Prompt read contents invariant)
    {fuel expected : Nat} (enough : expected ≤ fuel) {state : State}
    (start : invariant state)
    (short : (contents state).length < expected) :
    (readExactly read fuel expected state).1 = none ∧
      contents (readExactly read fuel expected state).2 = [] := by
  induction fuel generalizing expected state with
  | zero => omega
  | succ fuel ih =>
      cases expected with
      | zero => omega
      | succ missing =>
          have split := source.append (missing + 1) state
          simp only [readExactly]
          by_cases nothing : (read (missing + 1) state).1 = []
          · rw [if_pos nothing]
            have drained : contents state = [] := by
              by_contra something
              exact prompt.nonempty (missing + 1) state start something
                (Nat.succ_pos missing) nothing
            rw [nothing, drained] at split
            exact ⟨rfl, split⟩
          · rw [if_neg nothing]
            have progress := List.length_pos_iff.mpr nothing
            have lengths := congrArg List.length split
            rw [List.length_append] at lengths
            rcases ih
              (by omega :
                missing + 1 - (read (missing + 1) state).1.length ≤ fuel)
              (prompt.preserved (missing + 1) state start) (by omega) with
              ⟨failed, drained⟩
            refine ⟨?_, drained⟩
            rw [failed]
            rfl

/--
What reads within the contents preserve is preserved by a loop which asks for
no more than there is.
-/
theorem Sequential.readExactly_within (source : Sequential read contents)
    {invariant : State → Prop}
    (preserved : ∀ limit state, limit ≤ (contents state).length →
      invariant state → invariant (read limit state).2)
    (fuel : Nat) {expected : Nat} {state : State} (start : invariant state)
    (enough : expected ≤ (contents state).length) :
    invariant (readExactly read fuel expected state).2 := by
  induction fuel generalizing expected state with
  | zero =>
      cases expected with
      | zero => exact start
      | succ missing => exact start
  | succ fuel ih =>
      cases expected with
      | zero => exact start
      | succ missing =>
          have next := preserved (missing + 1) state enough start
          have lengths := congrArg List.length
            (source.append (missing + 1) state)
          rw [List.length_append] at lengths
          simp only [readExactly]
          split
          · exact next
          · exact ih next (by omega)

/-- A loop which asks for something begins with a read of all it asks for. -/
theorem readExactly_begins {read : Nat → State → List Item × State}
    {invariant : State → Prop}
    (preserved : ∀ limit state, invariant state →
      invariant (read limit state).2)
    {expected : Nat} (positive : 0 < expected) {state : State}
    (first : invariant (read expected state).2) :
    invariant (readExactly read expected expected state).2 := by
  cases expected with
  | zero => exact absurd positive (Nat.lt_irrefl 0)
  | succ missing =>
      simp only [readExactly]
      split
      · exact first
      · exact readExactly_preserves invariant preserved _ _ first

end

end Windmi.Library
