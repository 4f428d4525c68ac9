import Mathlib.Data.List.Nodup

/-! A bounded map that forgets the least recently used entry. The entries stand in order of
use, most recent first; a key has at most one entry. -/
namespace Fetchit.Lib

structure Lru (K V : Type*) where
  capacity : Nat
  entries : List (K × V)
  distinct : (entries.map Prod.fst).Nodup
  bounded : entries.length ≤ capacity

namespace Lru

section
variable {K V : Type*} [DecidableEq K]

def empty (capacity : Nat) : Lru K V where
  capacity := capacity
  entries := []
  distinct := List.nodup_nil
  bounded := Nat.zero_le _

def without (lru : Lru K V) (key : K) : List (K × V) :=
  lru.entries.filter fun entry => entry.1 ≠ key

variable {lru : Lru K V} {key : K} {entry : K × V} {value : V}

theorem mem_without :
    entry ∈ lru.without key ↔ entry ∈ lru.entries ∧ entry.1 ≠ key := by
  simp [without]

theorem distinct_cons_without (lru : Lru K V) (key : K) (value : V) :
    (((key, value) :: lru.without key).map Prod.fst).Nodup := by
  rw [List.map_cons, List.nodup_cons]
  refine ⟨?_, lru.distinct.sublist (List.filter_sublist.map _)⟩
  intro mem
  obtain ⟨entry, kept, same⟩ := List.mem_map.mp mem
  exact (mem_without.mp kept).2 same

theorem length_without_lt (h : (key, value) ∈ lru.entries) :
    (lru.without key).length < lru.entries.length := by
  apply List.length_filter_lt_length_iff_exists.mpr
  exact ⟨(key, value), h, by simp⟩

def put (lru : Lru K V) (key : K) (value : V) : Lru K V where
  capacity := lru.capacity
  entries := ((key, value) :: lru.without key).take lru.capacity
  distinct := (lru.distinct_cons_without key value).sublist ((List.take_sublist _ _).map _)
  bounded := List.length_take_le _ _

def find (lru : Lru K V) (key : K) : Option (K × V) :=
  lru.entries.find? fun entry => entry.1 = key

theorem find_eq_some (h : lru.find key = some entry) :
    entry ∈ lru.entries ∧ entry.1 = key := by
  exact ⟨List.mem_of_find?_eq_some h, by simpa using List.find?_some h⟩

def touch (lru : Lru K V) (key : K) (value : V) (h : (key, value) ∈ lru.entries) : Lru K V where
  capacity := lru.capacity
  entries := (key, value) :: lru.without key
  distinct := lru.distinct_cons_without key value
  bounded := by
    have shorter := length_without_lt h
    have bounded := lru.bounded
    rw [List.length_cons]
    omega

def get (lru : Lru K V) (key : K) : Option V × Lru K V :=
  match h : lru.find key with
  | none => (none, lru)
  | some entry =>
    (some entry.2, lru.touch key entry.2 (by
      obtain ⟨mem, same⟩ := find_eq_some h
      rw [← same]
      exact mem))

theorem get_eq_some (h : (lru.get key).1 = some value) :
    (key, value) ∈ lru.entries := by
  unfold get at h
  split at h
  · cases h
  · rename_i entry found
    obtain ⟨mem, same⟩ := find_eq_some found
    cases h
    rw [← same]
    exact mem

theorem mem_get (h : entry ∈ (lru.get key).2.entries) : entry ∈ lru.entries := by
  unfold get at h
  split at h
  · exact h
  · rename_i found' found
    obtain ⟨mem, same⟩ := find_eq_some found
    rcases List.mem_cons.mp h with rfl | kept
    · rw [← same]
      exact mem
    · exact (mem_without.mp kept).1

theorem mem_put (h : entry ∈ (lru.put key value).entries) :
    entry = (key, value) ∨ entry ∈ lru.entries := by
  rcases List.mem_cons.mp (List.mem_of_mem_take h) with rfl | kept
  · exact .inl rfl
  · exact .inr (mem_without.mp kept).1

end

end Lru

end Fetchit.Lib
