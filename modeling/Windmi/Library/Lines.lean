import Mathlib.Data.List.DropRight
import Mathlib.Tactic.Common

/-!
# Lines and trimmed fields

A text split at a separator into lines, the last of which need not be closed,
and fields without the padding around them.
-/

namespace Windmi.Library

variable {Symbol : Type*}

/-! ## Lines -/

section

variable [DecidableEq Symbol] (separator : Symbol)

/-- The lines of a text; a separator at its end does not begin another. -/
def splitLines : List Symbol → List (List Symbol)
  | [] => []
  | symbol :: symbols =>
      if symbol = separator then [] :: splitLines symbols
      else
        match splitLines symbols with
        | [] => [[symbol]]
        | line :: lines => (symbol :: line) :: lines

theorem separator_not_mem_splitLines (text : List Symbol) :
    ∀ line ∈ splitLines separator text, separator ∉ line := by
  induction text with
  | nil => exact List.forall_mem_nil _
  | cons symbol symbols ih =>
      rw [splitLines]
      split
      · exact List.forall_mem_cons.mpr ⟨List.not_mem_nil, ih⟩
      · rename_i other
        split
        · rw [List.forall_mem_singleton, List.mem_singleton]
          exact Ne.symm other
        · rename_i line lines split
          rw [split, List.forall_mem_cons] at ih
          refine List.forall_mem_cons.mpr ⟨?_, ih.2⟩
          rw [List.mem_cons, not_or]
          exact ⟨Ne.symm other, ih.1⟩

variable {separator}

theorem splitLines_append {line : List Symbol} (single : separator ∉ line)
    (rest : List Symbol) :
    splitLines separator (line ++ separator :: rest) =
      line :: splitLines separator rest := by
  induction line with
  | nil => rw [List.nil_append, splitLines, if_pos rfl]
  | cons symbol line ih =>
      rw [List.mem_cons, not_or] at single
      rw [List.cons_append, splitLines, if_neg (Ne.symm single.1),
        ih single.2]

/-- Lines that are written one after the other are read as they were. -/
theorem splitLines_flatMap {lines : List (List Symbol)}
    (single : ∀ line ∈ lines, separator ∉ line) :
    splitLines separator (lines.flatMap fun line => line ++ [separator]) =
      lines := by
  induction lines with
  | nil => rfl
  | cons line lines ih =>
      rw [List.forall_mem_cons] at single
      rw [List.flatMap_cons, List.append_assoc, List.singleton_append,
        splitLines_append single.1, ih single.2]

end

/-! ## Fields -/

section

variable (blank : Symbol → Bool)

/-- A text without the blanks at its beginning and at its end. -/
def trim (text : List Symbol) : List Symbol :=
  (text.dropWhile blank).rdropWhile blank

/-- Neither the first nor the last character is blank. -/
structure Solid (text : List Symbol) : Prop where
  head : ∀ symbol ∈ text.head?, blank symbol = false
  last : ∀ symbol ∈ text.getLast?, blank symbol = false

variable {blank}

theorem dropWhile_of_head {text : List Symbol}
    (head : ∀ symbol ∈ text.head?, blank symbol = false) :
    text.dropWhile blank = text := by
  cases text with
  | nil => rfl
  | cons first rest =>
      rw [List.dropWhile_cons_of_neg]
      rw [head first rfl]
      exact Bool.false_ne_true

theorem rdropWhile_of_last {text : List Symbol}
    (last : ∀ symbol ∈ text.getLast?, blank symbol = false) :
    text.rdropWhile blank = text := by
  rw [List.rdropWhile, dropWhile_of_head, List.reverse_reverse]
  rw [List.head?_reverse]
  exact last

/-- Blanks on both sides of a solid text are trimmed away. -/
theorem trim_of_blanks {before text after : List Symbol}
    (beforeBlank : ∀ symbol ∈ before, blank symbol = true)
    (afterBlank : ∀ symbol ∈ after, blank symbol = true)
    (solid : Solid blank text) :
    trim blank (before ++ text ++ after) = text := by
  rw [trim, List.append_assoc, List.dropWhile_append_of_pos beforeBlank]
  cases text with
  | nil =>
      rw [List.nil_append, List.dropWhile_eq_nil_iff.mpr afterBlank,
        List.rdropWhile_nil]
  | cons first rest =>
      have ahead : ∀ symbol ∈ (first :: rest ++ after).head?,
          blank symbol = false :=
        solid.head
      rw [dropWhile_of_head ahead, List.rdropWhile, List.reverse_append,
        List.dropWhile_append_of_pos]
      · exact rdropWhile_of_last solid.last
      · exact fun symbol member => afterBlank symbol (List.mem_reverse.mp member)

theorem not_blank_of_mem_dropWhile {text : List Symbol} {symbol : Symbol}
    (member : symbol ∈ (text.dropWhile blank).head?) : blank symbol = false := by
  have first := List.head?_dropWhile_not blank text
  rw [Option.mem_def.mp member] at first
  simpa using first

/-- Trimming the end does not reach what comes first. -/
theorem head?_trim (text : List Symbol) :
    (trim blank text).head? = (text.dropWhile blank).head? := by
  cases start : text.dropWhile blank with
  | nil => rw [trim, start, List.rdropWhile_nil]
  | cons first rest =>
      have solid : blank first = false := by
        apply @not_blank_of_mem_dropWhile _ blank text
        rw [start]
        rfl
      rw [trim, start]
      rcases List.rdropWhile_prefix blank (first :: rest) with
        ⟨dropped, whole⟩
      cases kept : (first :: rest).rdropWhile blank with
      | nil =>
          have all := List.rdropWhile_eq_nil_iff.mp kept first
            List.mem_cons_self
          exact absurd (solid.symm.trans all) Bool.false_ne_true
      | cons other others =>
          rw [kept, List.cons_append, List.cons.injEq] at whole
          rw [List.head?_cons, List.head?_cons, whole.1]

theorem solid_trim (text : List Symbol) : Solid blank (trim blank text) where
  head symbol member := by
    rw [head?_trim] at member
    exact not_blank_of_mem_dropWhile member
  last symbol member := by
    have nonempty : trim blank text ≠ [] := by
      intro empty
      rw [empty] at member
      exact absurd member (Option.not_mem_none _)
    rw [List.getLast?_eq_some_getLast nonempty, Option.mem_some_iff] at member
    have last := List.rdropWhile_last_not blank (text.dropWhile blank) nonempty
    rw [← member]
    exact Bool.eq_false_iff.mpr last

theorem mem_of_mem_trim {text : List Symbol} {symbol : Symbol}
    (member : symbol ∈ trim blank text) : symbol ∈ text :=
  (List.dropWhile_sublist blank).mem
    ((List.rdropWhile_prefix blank _).mem member)

end

end Windmi.Library
