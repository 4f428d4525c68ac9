import Mathlib.Data.List.MinMax
import Mathlib.Data.List.Nodup

/-! A table of keys with the time each of them was recorded. To record a key, the entries that
are at least a window old are forgotten; a key that is still there is refused, and at the
capacity the oldest entry makes room for the new one. -/
namespace Fetchit.Lib

structure Window (K : Type*) where
  window : Nat
  cap : Nat
  entries : List (K × Nat)
  distinct : (entries.map Prod.fst).Nodup

namespace Window

section
variable {K : Type*}

def empty (window cap : Nat) : Window K where
  window := window
  cap := cap
  entries := []
  distinct := List.nodup_nil

def keep (table : Window K) (kept : K × Nat → Bool) : Window K where
  window := table.window
  cap := table.cap
  entries := table.entries.filter kept
  distinct := table.distinct.sublist (List.filter_sublist.map _)

def sweep (table : Window K) (now : Nat) : Window K :=
  table.keep fun entry => decide (now - entry.2 < table.window)

variable {table : Window K} {now later : Nat} {entry : K × Nat} {history : List (K × Nat)} {key : K}

theorem mem_sweep :
    entry ∈ (table.sweep now).entries ↔
      entry ∈ table.entries ∧ now - entry.2 < table.window := by
  simp [sweep, keep]

def Tracks (table : Window K) (now : Nat) (history : List (K × Nat)) : Prop :=
  ∀ entry ∈ history, entry.2 ≤ now ∧ (entry ∈ table.entries ∨ entry.2 + table.window ≤ now)

theorem tracks_nil (table : Window K) (now : Nat) : table.Tracks now [] := by
  intro entry mem
  cases mem

theorem Tracks.mono (h : table.Tracks now history) (after : now ≤ later) :
    table.Tracks later history := by
  intro entry mem
  obtain ⟨past, tracked⟩ := h entry mem
  exact ⟨past.trans after, tracked.imp_right fun gone => gone.trans after⟩

variable [DecidableEq K]

def holds (table : Window K) (key : K) : Bool :=
  table.entries.any fun entry => entry.1 = key

theorem holds_eq_true :
    table.holds key = true ↔ ∃ time, (key, time) ∈ table.entries := by
  simp [holds]

def makeRoom (table : Window K) : Window K :=
  if table.cap ≤ table.entries.length then
    match table.entries.argmin Prod.snd with
    | some oldest => table.keep fun entry => entry.1 ≠ oldest.1
    | none => table
  else table

theorem makeRoom_entries_subset (table : Window K) (h : entry ∈ table.makeRoom.entries) :
    entry ∈ table.entries := by
  unfold makeRoom at h
  split at h
  · split at h
    · exact List.mem_of_mem_filter h
    · exact h
  · exact h

theorem makeRoom_of_lt (h : table.entries.length < table.cap) :
    table.makeRoom = table := by
  unfold makeRoom
  rw [if_neg (by omega)]

theorem not_holds_makeRoom (h : table.holds key = false) :
    key ∉ table.makeRoom.entries.map Prod.fst := by
  intro mem
  obtain ⟨entry, kept, rfl⟩ := List.mem_map.mp mem
  have held : table.holds entry.1 = true :=
    holds_eq_true.mpr ⟨entry.2, table.makeRoom_entries_subset kept⟩
  rw [h] at held
  cases held

def insert (table : Window K) (key : K) (now : Nat)
    (fresh : key ∉ table.entries.map Prod.fst) : Window K where
  window := table.window
  cap := table.cap
  entries := (key, now) :: table.entries
  distinct := by
    rw [List.map_cons, List.nodup_cons]
    exact ⟨fresh, table.distinct⟩

def record (table : Window K) (key : K) (now : Nat) : Bool × Window K :=
  let swept := table.sweep now
  if h : swept.holds key = false then (true, swept.makeRoom.insert key now (not_holds_makeRoom h))
  else (false, swept)

theorem record_fst :
    (table.record key now).1 = true ↔ (table.sweep now).holds key = false := by
  unfold record
  dsimp only
  split <;> simp_all

theorem record_refused :
    (table.record key now).1 = false ↔
      ∃ time, (key, time) ∈ table.entries ∧ now - time < table.window := by
  rw [← Bool.not_eq_true, record_fst, Bool.not_eq_false, holds_eq_true]
  simp only [mem_sweep]

theorem makeRoom_window (table : Window K) : table.makeRoom.window = table.window := by
  unfold makeRoom
  split
  · split <;> rfl
  · rfl

@[simp] theorem record_window (table : Window K) (key : K) (now : Nat) :
    (table.record key now).2.window = table.window := by
  unfold record
  dsimp only
  split
  · exact makeRoom_window _
  · rfl

theorem mem_record_self (h : (table.record key now).1 = true) :
    (key, now) ∈ (table.record key now).2.entries := by
  unfold record
  rw [dif_pos (record_fst.mp h)]
  exact List.mem_cons_self

theorem mem_record (h : entry ∈ (table.record key now).2.entries) :
    entry = (key, now) ∨ entry ∈ table.entries := by
  unfold record at h
  dsimp only at h
  split at h
  · rcases List.mem_cons.mp h with new | old
    · exact .inl new
    · exact .inr (mem_sweep.mp (makeRoom_entries_subset _ old)).1
  · exact .inr (mem_sweep.mp h).1

theorem eq_of_mem_record (new : (table.record key now).1 = true)
    (h : (key, time) ∈ (table.record key now).2.entries) :
    time = now := by
  have same := List.inj_on_of_nodup_map (table.record key now).2.distinct h (mem_record_self new)
    rfl
  exact (Prod.mk.inj same).2

theorem mem_record_of_mem (room : table.entries.length < table.cap) (mem : entry ∈ table.entries)
    (young : now - entry.2 < table.window) : entry ∈ (table.record key now).2.entries := by
  have kept : entry ∈ (table.sweep now).entries := mem_sweep.mpr ⟨mem, young⟩
  have below : (table.sweep now).entries.length < (table.sweep now).cap :=
    lt_of_le_of_lt (List.length_filter_le _ _) room
  unfold record
  dsimp only
  split
  · apply List.mem_cons_of_mem
    rw [makeRoom_of_lt below]
    exact kept
  · exact kept

theorem Tracks.record (key : K) (h : table.Tracks now history) (after : now ≤ later)
    (room : table.entries.length < table.cap) :
    (table.record key later).2.Tracks later history := by
  intro entry mem
  obtain ⟨past, tracked⟩ := h entry mem
  rw [record_window]
  refine ⟨past.trans after, ?_⟩
  by_cases old : entry.2 + table.window ≤ later
  · exact .inr old
  · rcases tracked with there | gone
    · exact .inl (mem_record_of_mem room there (by omega))
    · exact absurd (gone.trans after) old

theorem Tracks.record_new (h : table.Tracks now history) (after : now ≤ later)
    (room : table.entries.length < table.cap) (new : (table.record key later).1 = true) :
    (table.record key later).2.Tracks later ((key, later) :: history) := by
  intro entry mem
  rcases List.mem_cons.mp mem with rfl | mem
  · exact ⟨le_refl _, .inl (mem_record_self new)⟩
  · exact h.record key after room entry mem

theorem Tracks.apart (h : table.Tracks now history) (after : now ≤ later)
    (before : (key, time) ∈ history) (new : (table.record key later).1 = true) :
    time + table.window ≤ later := by
  obtain ⟨past, there | gone⟩ := h _ before
  · by_contra young
    have refused : (table.record key later).1 = false :=
      record_refused.mpr ⟨time, there, by omega⟩
    rw [new] at refused
    cases refused
  · exact gone.trans after

end

end Window

end Fetchit.Lib
