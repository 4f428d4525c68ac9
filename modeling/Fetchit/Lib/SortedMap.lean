import Mathlib.Order.Lattice
import Mathlib.Data.List.Basic

/-! Maps whose entries are kept in the order of their keys. -/
namespace Fetchit.Lib

structure SortedMap (K V : Type*) [LinearOrder K] where
  entries : List (K × V)
  sorted : entries.Pairwise fun first second => first.1 < second.1

namespace SortedMap

variable {K V : Type*} [LinearOrder K]

instance [DecidableEq V] : DecidableEq (SortedMap K V) := fun first second =>
  decidable_of_iff (first.entries = second.entries) (by
    cases first
    cases second
    simp)

def empty : SortedMap K V := ⟨[], List.Pairwise.nil⟩

def insertEntry (key : K) (value : V) : List (K × V) → List (K × V)
  | [] => [(key, value)]
  | entry :: rest =>
    if key < entry.1 then (key, value) :: entry :: rest
    else if key = entry.1 then (key, value) :: rest
    else entry :: insertEntry key value rest

variable {key : K} {value : V} {entries : List (K × V)}

theorem mem_insertEntry (h : entry ∈ insertEntry key value entries) :
    entry = (key, value) ∨ entry ∈ entries := by
  induction entries with
  | nil => exact .inl (List.mem_singleton.mp h)
  | cons first rest ih =>
    unfold insertEntry at h
    split at h
    · exact List.mem_cons.mp h
    · split at h
      · exact (List.mem_cons.mp h).imp_right (List.mem_cons_of_mem _)
      · rcases List.mem_cons.mp h with rfl | h
        · exact .inr List.mem_cons_self
        · exact (ih h).imp_right (List.mem_cons_of_mem _)

theorem insertEntry_sorted (key : K) (value : V)
    (h : entries.Pairwise fun first second => first.1 < second.1) :
    (insertEntry key value entries).Pairwise fun first second => first.1 < second.1 := by
  induction entries with
  | nil => exact List.pairwise_singleton _ _
  | cons first rest ih =>
    rw [List.pairwise_cons] at h
    unfold insertEntry
    split
    · rename_i before
      refine List.pairwise_cons.mpr ⟨?_, List.pairwise_cons.mpr h⟩
      intro entry mem
      rcases List.mem_cons.mp mem with rfl | mem
      · exact before
      · exact before.trans (h.1 entry mem)
    · rename_i notBefore
      split
      · rename_i same
        refine List.pairwise_cons.mpr ⟨?_, h.2⟩
        intro entry mem
        rw [same]
        exact h.1 entry mem
      · rename_i other
        refine List.pairwise_cons.mpr ⟨?_, ih h.2⟩
        intro entry mem
        rcases mem_insertEntry mem with rfl | mem
        · exact lt_of_le_of_ne (not_lt.mp notBefore) (Ne.symm other)
        · exact h.1 entry mem

def insert (map : SortedMap K V) (key : K) (value : V) : SortedMap K V :=
  ⟨insertEntry key value map.entries, insertEntry_sorted key value map.sorted⟩

def erase (map : SortedMap K V) (key : K) : SortedMap K V :=
  ⟨map.entries.filter fun entry => entry.1 ≠ key, map.sorted.filter _⟩

def get? (map : SortedMap K V) (key : K) : Option V := map.entries.lookup key

def values (map : SortedMap K V) : List V := map.entries.map Prod.snd

theorem lookup_cons_ite (key : K) (entry : K × V) (rest : List (K × V)) :
    (entry :: rest).lookup key = if key = entry.1 then some entry.2 else rest.lookup key := by
  by_cases same : key = entry.1
  · rw [if_pos same, List.lookup_cons, same, BEq.rfl]
  · rw [if_neg same, List.lookup_cons, beq_false_of_ne same]

theorem lookup_insertEntry (key other : K) (value : V) (entries : List (K × V)) :
    (insertEntry key value entries).lookup other =
      if other = key then some value else entries.lookup other := by
  induction entries with
  | nil => exact lookup_cons_ite other (key, value) []
  | cons first rest ih =>
    unfold insertEntry
    split
    · rw [lookup_cons_ite]
    · split
      · rename_i same
        rw [lookup_cons_ite, lookup_cons_ite, ← same]
        by_cases here : other = key
        · rw [if_pos here, if_pos here]
        · rw [if_neg here, if_neg here, if_neg here]
      · rename_i different
        rw [lookup_cons_ite, lookup_cons_ite, ih]
        by_cases here : other = key
        · rw [if_neg (here ▸ different), if_pos here, if_pos here]
        · rw [if_neg here, if_neg here]

@[simp] theorem get?_insert (map : SortedMap K V) (key other : K) (value : V) :
    (map.insert key value).get? other = if other = key then some value else map.get? other :=
  lookup_insertEntry key other value map.entries

theorem lookup_filter_ne (key other : K) (entries : List (K × V)) :
    (entries.filter fun entry => entry.1 ≠ key).lookup other =
      if other = key then none else entries.lookup other := by
  induction entries with
  | nil => simp
  | cons first rest ih =>
    rw [List.filter_cons]
    by_cases here : first.1 = key
    · rw [if_neg (by simpa using here), ih, lookup_cons_ite, here]
      by_cases same : other = key
      · rw [if_pos same, if_pos same]
      · rw [if_neg same, if_neg same, if_neg same]
    · rw [if_pos (by simpa using here), lookup_cons_ite, lookup_cons_ite, ih]
      by_cases same : other = key
      · rw [if_neg (same ▸ Ne.symm here), if_pos same, if_pos same]
      · rw [if_neg same, if_neg same]

@[simp] theorem get?_erase (map : SortedMap K V) (key other : K) :
    (map.erase key).get? other = if other = key then none else map.get? other :=
  lookup_filter_ne key other map.entries

theorem lookup_eq_some (sorted : entries.Pairwise fun first second => first.1 < second.1) :
    entries.lookup key = some value ↔ (key, value) ∈ entries := by
  induction entries with
  | nil => simp
  | cons first rest ih =>
    rw [List.pairwise_cons] at sorted
    rw [lookup_cons_ite, List.mem_cons]
    by_cases here : key = first.1
    · rw [if_pos here]
      constructor
      · intro found
        exact .inl (Prod.ext here (Option.some.inj found).symm)
      · rintro (same | later)
        · rw [← same]
        · exact absurd (here ▸ sorted.1 _ later) (lt_irrefl _)
    · have differs : (key, value) ≠ first := by
        rintro rfl
        exact here rfl
      rw [if_neg here, ih sorted.2]
      exact (or_iff_right differs).symm

theorem get?_eq_some {map : SortedMap K V} :
    map.get? key = some value ↔ (key, value) ∈ map.entries :=
  lookup_eq_some map.sorted

end SortedMap

end Fetchit.Lib
