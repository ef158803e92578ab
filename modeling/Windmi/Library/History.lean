import Mathlib.Data.List.Basic

/-!
# Laws of event histories

A history lists events with the newest one first, so that the events before
any given one are the tail behind it.  A law says which events may follow which
earlier ones, and a history is lawful if each of its events obeys the law.
What is known of something after a history is what its newest event tells that
tells anything.
-/

namespace Windmi.Library

variable {Event : Type*}

/-- Every event of the history obeys the law, given the events before it. -/
def Lawful (law : Event → List Event → Prop) : List Event → Prop
  | [] => True
  | event :: earlier => law event earlier ∧ Lawful law earlier

@[simp]
theorem lawful_nil (law : Event → List Event → Prop) : Lawful law [] :=
  trivial

@[simp]
theorem lawful_cons {law : Event → List Event → Prop}
    {event : Event} {earlier : List Event} :
    Lawful law (event :: earlier) ↔
      law event earlier ∧ Lawful law earlier :=
  Iff.rfl

/-- Events which obey the law whatever came before them can be added. -/
theorem Lawful.append {law : Event → List Event → Prop}
    {newer history : List Event} (lawful : Lawful law history)
    (free : ∀ event ∈ newer, ∀ earlier, law event earlier) :
    Lawful law (newer ++ history) := by
  induction newer with
  | nil => exact lawful
  | cons event newer ih =>
      refine ⟨free event (List.mem_cons_self ..) _, ih ?_⟩
      intro inner member
      exact free inner (List.mem_cons_of_mem event member)

/-- Lawfulness is a statement about every event of the history. -/
theorem lawful_iff {law : Event → List Event → Prop}
    {history : List Event} :
    Lawful law history ↔
      ∀ newer event earlier,
        history = newer ++ event :: earlier → law event earlier := by
  induction history with
  | nil => simp
  | cons head tail ih =>
      rw [lawful_cons, ih]
      constructor
      · rintro ⟨headLaw, tailLaw⟩ newer event earlier equal
        cases newer with
        | nil =>
            rcases List.cons.inj equal with ⟨rfl, rfl⟩
            exact headLaw
        | cons first rest =>
            rcases List.cons.inj equal with ⟨-, tailEqual⟩
            exact tailLaw rest event earlier tailEqual
      · intro law
        refine ⟨law [] head tail rfl, ?_⟩
        intro newer event earlier equal
        exact law (head :: newer) event earlier (by rw [equal]; rfl)

/-! ## The latest news -/

section

variable {α : Type*} {known : Event → List Event → Option α}

/-- The newest thing told by an event, given the events before it. -/
def latest (known : Event → List Event → Option α) :
    List Event → Option α
  | [] => none
  | event :: earlier => (known event earlier).or (latest known earlier)

@[simp]
theorem latest_cons (event : Event) (earlier : List Event) :
    latest known (event :: earlier) =
      (known event earlier).or (latest known earlier) :=
  rfl

/-- Events that tell nothing, where they stand, leave the news as they were. -/
theorem latest_append {quiet : List Event → Prop}
    {newer history : List Event} (start : quiet history)
    (silent : ∀ event ∈ newer, ∀ earlier, quiet earlier →
      known event earlier = none ∧ quiet (event :: earlier)) :
    latest known (newer ++ history) = latest known history := by
  have both : latest known (newer ++ history) = latest known history ∧
      quiet (newer ++ history) := by
    induction newer with
    | nil => exact ⟨rfl, start⟩
    | cons event newer ih =>
        rcases ih fun inner member =>
          silent inner (List.mem_cons_of_mem event member) with
          ⟨same, before⟩
        rcases silent event (List.mem_cons_self ..) _ before with
          ⟨nothing, after⟩
        rw [List.cons_append, latest_cons, nothing, Option.none_or]
        exact ⟨same, after⟩
  exact both.1

end

end Windmi.Library
