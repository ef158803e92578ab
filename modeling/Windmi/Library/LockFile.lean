import Mathlib.Data.List.Basic

/-!
# A file under an advisory lock

Owners open one file, ask for its exclusive lock without waiting, and write
into it from its beginning; the lock does not keep anybody from writing.  It
goes with the owner's descriptor, so that an owner which ends in whatever way
does not hold it any more.
-/

namespace Windmi.Library

structure LockFile (Owner Symbol : Type*) where
  contents : List Symbol := []
  holder : Option Owner := none
  deriving DecidableEq

namespace LockFile

variable {Owner Symbol : Type*}

/-- The exclusive lock, if nobody holds it. -/
def tryLock (owner : Owner) (file : LockFile Owner Symbol) :
    Bool × LockFile Owner Symbol :=
  match file.holder with
  | none => (true, { file with holder := some owner })
  | some _ => (false, file)

/-- What becomes of the lock when an owner closes the file. -/
def close [DecidableEq Owner] (owner : Owner)
    (file : LockFile Owner Symbol) : LockFile Owner Symbol :=
  if file.holder = some owner then { file with holder := none } else file

/-- Write from the beginning of the file. -/
def write (text : List Symbol) (file : LockFile Owner Symbol) :
    LockFile Owner Symbol :=
  { file with contents := text ++ file.contents.drop text.length }

/-- Cut the file to a size, or fill it up to that size. -/
def truncate (blank : Symbol) (size : Nat)
    (file : LockFile Owner Symbol) : LockFile Owner Symbol :=
  { file with
    contents := file.contents.take size ++
      List.replicate (size - file.contents.length) blank }

variable {owner : Owner} {file : LockFile Owner Symbol}

theorem tryLock_of_free (free : file.holder = none) :
    file.tryLock owner = (true, { file with holder := some owner }) := by
  rw [tryLock, free]

theorem tryLock_of_held {other : Owner} (held : file.holder = some other) :
    file.tryLock owner = (false, file) := by
  rw [tryLock, held]

/-- Only the holder's descriptor carries the lock. -/
theorem holder_close_iff [DecidableEq Owner] {other : Owner} :
    (file.close owner).holder = some other ↔
      file.holder = some other ∧ other ≠ owner := by
  unfold close
  split
  case isTrue holds =>
    rw [holds]
    constructor
    · intro held
      cases held
    · rintro ⟨same, different⟩
      exact absurd (Option.some.inj same).symm different
  case isFalse foreign =>
    refine ⟨fun held => ⟨held, ?_⟩, And.left⟩
    rintro rfl
    exact foreign held

theorem close_of_foreign [DecidableEq Owner]
    (foreign : file.holder ≠ some owner) : file.close owner = file :=
  if_neg foreign

@[simp]
theorem contents_close [DecidableEq Owner] :
    (file.close owner).contents = file.contents := by
  unfold close
  split
  · rfl
  · rfl

/-- What comes after a text is cut off. -/
theorem truncate_of_contents (blank : Symbol) {text rest : List Symbol}
    (contents : file.contents = text ++ rest) :
    (file.truncate blank text.length).contents = text := by
  simp [truncate, contents]

@[simp]
theorem length_truncate (blank : Symbol) (size : Nat) :
    (file.truncate blank size).contents.length = size := by
  rw [truncate, List.length_append, List.length_take, List.length_replicate]
  omega

/-- A text that was written is still there when the file is cut or filled up
to a size which it fits into. -/
theorem prefix_truncate_write (blank : Symbol) {text : List Symbol}
    {size : Nat} (fits : text.length ≤ size) :
    text <+: ((file.write text).truncate blank size).contents := by
  rw [truncate, write, List.take_append, List.take_of_length_le fits,
    List.append_assoc]
  exact List.prefix_append ..

end LockFile

end Windmi.Library
