import Mathlib.Order.Lattice
import Mathlib.Data.List.Basic
import Mathlib.Data.List.Perm.Basic
import Mathlib.Data.List.Nodup

/-!
# Maps that are kept in the order of their keys

A finite map as the list of its entries, in strictly increasing order of the
keys, and what becomes of it when many entries are inserted one by one.
-/

namespace Windmi.Library

variable {Key Value : Type*} [LinearOrder Key]

/-- The entries in strictly increasing order of their keys. -/
structure SortedMap (Key Value : Type*) [LinearOrder Key] where
  entries : List (Key × Value)
  sorted : entries.Pairwise fun first second => first.1 < second.1

/-- The entry replaces one with the same key. -/
def insertEntry (key : Key) (value : Value) :
    List (Key × Value) → List (Key × Value)
  | [] => [(key, value)]
  | entry :: entries =>
      if key < entry.1 then (key, value) :: entry :: entries
      else if key = entry.1 then (key, value) :: entries
      else entry :: insertEntry key value entries

theorem mem_insertEntry {key : Key} {value : Value}
    {entries : List (Key × Value)} {entry : Key × Value}
    (member : entry ∈ insertEntry key value entries) :
    entry = (key, value) ∨ entry ∈ entries := by
  induction entries with
  | nil => exact Or.inl (List.mem_singleton.mp member)
  | cons first entries ih =>
      unfold insertEntry at member
      split at member
      · exact (List.mem_cons.mp member)
      · split at member
        · exact (List.mem_cons.mp member).imp_right (List.mem_cons_of_mem _)
        · rcases List.mem_cons.mp member with rfl | later
          · exact Or.inr List.mem_cons_self
          · exact (ih later).imp_right (List.mem_cons_of_mem _)

theorem insertEntry_sorted (key : Key) (value : Value)
    {entries : List (Key × Value)}
    (sorted : entries.Pairwise fun first second => first.1 < second.1) :
    (insertEntry key value entries).Pairwise
      fun first second => first.1 < second.1 := by
  induction entries with
  | nil => exact List.pairwise_singleton _ _
  | cons first entries ih =>
      have parts := List.pairwise_cons.mp sorted
      unfold insertEntry
      split
      · rename_i before
        refine List.pairwise_cons.mpr ⟨?_, sorted⟩
        rw [List.forall_mem_cons]
        exact ⟨before, fun other member =>
          before.trans (parts.1 other member)⟩
      · split
        · rename_i same
          refine List.pairwise_cons.mpr ⟨fun other member => ?_, parts.2⟩
          exact same.trans_lt (parts.1 other member)
        · rename_i notBefore different
          refine List.pairwise_cons.mpr ⟨fun other member => ?_, ih parts.2⟩
          rcases mem_insertEntry member with rfl | later
          · exact lt_of_le_of_ne (not_lt.mp notBefore) (Ne.symm different)
          · exact parts.1 other later

/-- The value of the first entry with a key. -/
def lookupEntry (key : Key) : List (Key × Value) → Option Value
  | [] => none
  | entry :: entries =>
      if entry.1 = key then some entry.2 else lookupEntry key entries

theorem lookupEntry_insertEntry (key other : Key) (value : Value)
    (entries : List (Key × Value)) :
    lookupEntry other (insertEntry key value entries) =
      if key = other then some value else lookupEntry other entries := by
  induction entries with
  | nil => rfl
  | cons first entries ih =>
      rw [insertEntry, lookupEntry]
      split
      · rw [lookupEntry, lookupEntry]
      · split
        · rename_i equal
          rw [lookupEntry, ← equal]
          by_cases here : key = other
          · rw [if_pos here, if_pos here]
          · rw [if_neg here, if_neg here, if_neg here]
        · rename_i different
          rw [lookupEntry, ih]
          by_cases here : first.1 = other
          · have apart : key ≠ other := fun same =>
              different (same.trans here.symm)
            rw [if_pos here, if_neg apart, if_pos here]
          · rw [if_neg here, if_neg here]

/-- A key is looked up in the only entry it has. -/
theorem lookupEntry_eq_some_iff {entries : List (Key × Value)}
    (distinct : (entries.map Prod.fst).Nodup) {key : Key} {value : Value} :
    lookupEntry key entries = some value ↔ (key, value) ∈ entries := by
  induction entries with
  | nil => simp [lookupEntry]
  | cons first entries ih =>
      rw [List.map_cons, List.nodup_cons] at distinct
      rw [lookupEntry, List.mem_cons]
      by_cases here : first.1 = key
      · rw [if_pos here]
        constructor
        · intro found
          exact Or.inl (Prod.ext here.symm (Option.some.inj found).symm)
        · rintro (same | later)
          · rw [← same]
          · have again : key ∈ entries.map Prod.fst :=
              List.mem_map_of_mem later
            rw [← here] at again
            exact absurd again distinct.1
      · rw [if_neg here, ih distinct.2]
        refine (or_iff_right fun same => here ?_).symm
        rw [← same]

namespace SortedMap

def empty : SortedMap Key Value where
  entries := []
  sorted := List.Pairwise.nil

def insert (map : SortedMap Key Value) (key : Key) (value : Value) :
    SortedMap Key Value where
  entries := insertEntry key value map.entries
  sorted := insertEntry_sorted key value map.sorted

def lookup (map : SortedMap Key Value) (key : Key) : Option Value :=
  lookupEntry key map.entries

/-- Inserting some entries, oldest first. -/
def insertAll (map : SortedMap Key Value) (entries : List (Key × Value)) :
    SortedMap Key Value :=
  entries.foldl (fun map entry => map.insert entry.1 entry.2) map

theorem lookup_insert (map : SortedMap Key Value) (key other : Key)
    (value : Value) :
    (map.insert key value).lookup other =
      if key = other then some value else map.lookup other :=
  lookupEntry_insertEntry key other value map.entries

theorem keys_nodup (map : SortedMap Key Value) :
    (map.entries.map Prod.fst).Nodup := by
  rw [List.Nodup, List.pairwise_map]
  exact map.sorted.imp ne_of_lt

theorem lookup_eq_some_iff {map : SortedMap Key Value} {key : Key}
    {value : Value} :
    map.lookup key = some value ↔ (key, value) ∈ map.entries :=
  lookupEntry_eq_some_iff map.keys_nodup

theorem lookup_isSome_iff {map : SortedMap Key Value} {key : Key} :
    (map.lookup key).isSome ↔ key ∈ map.entries.map Prod.fst := by
  rw [Option.isSome_iff_exists, List.mem_map]
  constructor
  · rintro ⟨value, found⟩
    exact ⟨(key, value), lookup_eq_some_iff.mp found, rfl⟩
  · rintro ⟨entry, member, rfl⟩
    exact ⟨entry.2, lookup_eq_some_iff.mpr member⟩

/-- Maps in which every key is looked up alike are the same. -/
theorem ext_lookup {first second : SortedMap Key Value}
    (same : ∀ key, first.lookup key = second.lookup key) :
    first = second := by
  have entries : first.entries.Perm second.entries := by
    rw [List.perm_ext_iff_of_nodup (first.keys_nodup.of_map _)
      (second.keys_nodup.of_map _)]
    intro entry
    rw [← lookup_eq_some_iff, same, lookup_eq_some_iff]
  have equal : first.entries = second.entries :=
    entries.eq_of_pairwise
      (fun one other _ _ before after => absurd before after.asymm)
      first.sorted second.sorted
  rcases first with ⟨_, _⟩
  subst equal
  rfl

section

variable {entries : List (Key × Value)}

theorem lookup_insertAll_of_not_mem (map : SortedMap Key Value) {key : Key}
    (absent : key ∉ entries.map Prod.fst) :
    (map.insertAll entries).lookup key = map.lookup key := by
  induction entries generalizing map with
  | nil => rfl
  | cons first entries ih =>
      rw [List.map_cons, List.mem_cons, not_or] at absent
      rw [insertAll, List.foldl_cons]
      exact (ih _ absent.2).trans
        ((map.lookup_insert first.1 key first.2).trans (if_neg (Ne.symm absent.1)))

theorem lookup_insertAll_of_mem (map : SortedMap Key Value)
    (distinct : (entries.map Prod.fst).Nodup) {key : Key} {value : Value}
    (member : (key, value) ∈ entries) :
    (map.insertAll entries).lookup key = some value := by
  induction entries generalizing map with
  | nil => exact absurd member List.not_mem_nil
  | cons first entries ih =>
      rw [List.map_cons, List.nodup_cons] at distinct
      rw [insertAll, List.foldl_cons]
      rcases List.mem_cons.mp member with rfl | later
      · exact (lookup_insertAll_of_not_mem _ distinct.1).trans
          ((map.lookup_insert key key value).trans (if_pos rfl))
      · exact ih _ distinct.2 later

/-- Keys are added and never taken away. -/
theorem lookup_insertAll_isSome_iff (map : SortedMap Key Value)
    {key : Key} :
    ((map.insertAll entries).lookup key).isSome ↔
      (map.lookup key).isSome ∨ key ∈ entries.map Prod.fst := by
  induction entries generalizing map with
  | nil => simp [insertAll]
  | cons first entries ih =>
      rw [insertAll, List.foldl_cons]
      refine (ih _).trans ?_
      rw [lookup_insert, List.map_cons, List.mem_cons]
      by_cases here : first.1 = key
      · simp [here]
      · simp [here, Ne.symm here]

end

end SortedMap

end Windmi.Library
