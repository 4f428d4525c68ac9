import Mathlib.Data.List.Nodup

/-! Ledgers: rows that belong to owners, each under an id that the ledger has never given to
another row. Rows are appended and removed, never changed. -/
namespace Fetchit.Lib

structure LedgerRow (Owner Item : Type*) where
  owner : Owner
  id : Nat
  item : Item
  deriving DecidableEq

structure Ledger (Owner Item : Type*) where
  rows : List (LedgerRow Owner Item)
  next : Nat
  below : ∀ row ∈ rows, row.id < next
  distinct : (rows.map LedgerRow.id).Nodup

namespace Ledger

section
variable {Owner Item : Type*}

def empty (next : Nat) : Ledger Owner Item where
  rows := []
  next := next
  below := by
    intro row mem
    cases mem
  distinct := List.nodup_nil

def fresh (ledger : Ledger Owner Item) (owner : Owner) (item : Item) : LedgerRow Owner Item :=
  ⟨owner, ledger.next, item⟩

def append (ledger : Ledger Owner Item) (owner : Owner) (item : Item) : Ledger Owner Item where
  rows := ledger.rows ++ [ledger.fresh owner item]
  next := ledger.next + 1
  below := by
    intro row mem
    rcases List.mem_append.mp mem with old | new
    · have := ledger.below row old
      omega
    · rw [List.mem_singleton.mp new]
      exact Nat.lt_succ_self _
  distinct := by
    rw [List.map_append, List.nodup_append]
    refine ⟨ledger.distinct, List.nodup_singleton _, ?_⟩
    intro id old id' new same
    obtain ⟨row, mem, rfl⟩ := List.mem_map.mp old
    have below := ledger.below row mem
    rw [List.map_singleton, List.mem_singleton] at new
    rw [same, new] at below
    exact Nat.lt_irrefl _ below

def retain (ledger : Ledger Owner Item) (keep : LedgerRow Owner Item → Bool) :
    Ledger Owner Item where
  rows := ledger.rows.filter keep
  next := ledger.next
  below := by
    intro row mem
    exact ledger.below row (List.mem_of_mem_filter mem)
  distinct := ledger.distinct.sublist (List.filter_sublist.map _)

variable {ledger : Ledger Owner Item} {row : LedgerRow Owner Item} {owner : Owner}

theorem eq_of_same_id (h : row ∈ ledger.rows)
    (h' : row' ∈ ledger.rows) (same : row.id = row'.id) : row = row' :=
  List.inj_on_of_nodup_map ledger.distinct h h' same

variable [DecidableEq Owner]

def owned (ledger : Ledger Owner Item) (owner : Owner) : List (LedgerRow Owner Item) :=
  ledger.rows.filter (·.owner = owner)

theorem mem_owned :
    row ∈ ledger.owned owner ↔ row ∈ ledger.rows ∧ row.owner = owner := by
  simp [owned]

theorem owned_lt (h : row ∈ ledger.owned owner) : row.id < ledger.next :=
  ledger.below row (mem_owned.mp h).1

theorem mem_owned_append :
    row ∈ (ledger.append recipient item).owned owner ↔
      row ∈ ledger.owned owner ∨ recipient = owner ∧ row = ledger.fresh recipient item := by
  simp only [mem_owned, append, List.mem_append, List.mem_singleton]
  constructor
  · rintro ⟨old | rfl, belongs⟩
    · exact .inl ⟨old, belongs⟩
    · exact .inr ⟨belongs, rfl⟩
  · rintro (⟨old, belongs⟩ | ⟨rfl, rfl⟩)
    · exact ⟨.inl old, belongs⟩
    · exact ⟨.inr rfl, rfl⟩

theorem mem_owned_retain :
    row ∈ (ledger.retain keep).owned owner ↔ row ∈ ledger.owned owner ∧ keep row = true := by
  simp only [mem_owned, retain, List.mem_filter]
  tauto

end

end Ledger

end Fetchit.Lib
