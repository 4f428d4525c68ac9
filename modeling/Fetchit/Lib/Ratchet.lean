import Mathlib.Data.List.Basic
import Mathlib.Logic.Function.Basic

/-! Registers that only move forward. A register takes a row whose stamp is above that of the
row it holds, and a sweep may empty it. The stamps that one register has taken over a whole
history rise as long as an emptied register is refilled above what it lost. -/
namespace Fetchit.Lib.Ratchet
open Function

section Rows
variable {Key Row : Type*}

def retain (keep : Row → Bool) (rows : Key → Option Row) : Key → Option Row :=
  fun k => (rows k).filter keep

theorem retain_eq_some {rows : Key → Option Row} {k : Key} {row : Row} :
    retain keep rows k = some row ↔ rows k = some row ∧ keep row = true := by
  simp [retain]

variable [DecidableEq Key] (key : Row → Key) (stamp : Row → Nat)

def putIfNewer (rows : Key → Option Row) (row : Row) : Except Nat (Key → Option Row) :=
  match rows (key row) with
  | some current =>
    if stamp row ≤ stamp current then .error (stamp current)
    else .ok (update rows (key row) (some row))
  | none => .ok (update rows (key row) (some row))

/-- What a put can do: the row enters above the stored one, or nothing changes. -/
inductive PutSpec (rows : Key → Option Row) (row : Row) :
    Except Nat (Key → Option Row) → Prop
  | entered (above : ∀ current, rows (key row) = some current → stamp current < stamp row) :
      PutSpec rows row (.ok (update rows (key row) (some row)))
  | refused (current : Row) (stored : rows (key row) = some current)
      (below : stamp row ≤ stamp current) : PutSpec rows row (.error (stamp current))

theorem putIfNewer_spec (rows : Key → Option Row) (row : Row) :
    PutSpec key stamp rows row (putIfNewer key stamp rows row) := by
  unfold putIfNewer
  split
  · rename_i current stored
    split
    · rename_i below
      exact .refused current stored below
    · refine .entered fun other held => ?_
      rw [stored] at held
      cases held
      omega
  · rename_i empty
    refine .entered fun other held => ?_
    rw [empty] at held
    cases held

theorem map_putIfNewer_ok {store : (Key → Option Row) → Store} {next : Store}
    (h : (putIfNewer key stamp rows row).map store = .ok next) :
    next = store (update rows (key row) (some row)) ∧
      ∀ current, rows (key row) = some current → stamp current < stamp row := by
  have spec := putIfNewer_spec key stamp rows row
  generalize putIfNewer key stamp rows row = outcome at spec h
  cases spec with
  | entered above =>
    cases h
    exact ⟨rfl, above⟩
  | refused current stored below => cases h

end Rows

section Marks
variable {Key : Type*}

/-- Registers seen by their stamps alone, with what sweeps took from them and every stamp they
have taken, newest first. -/
structure Marks (Key : Type*) where
  current : Key → Option Nat
  lost : Key → Option Nat
  accepted : List (Key × Nat)

/-- One step: a register takes a higher stamp, or some registers are emptied. An emptied
register that is refilled takes a stamp above the one it lost. -/
inductive Moves [DecidableEq Key] (before : Marks Key) : Marks Key → Prop
  | accept (k : Key) (mark : Nat)
      (above : ∀ held, before.current k = some held → held < mark)
      (refill : ∀ gone, before.current k = none → before.lost k = some gone → gone < mark) :
      Moves before ⟨update before.current k (some mark), before.lost,
        (k, mark) :: before.accepted⟩
  | sweep (current lost : Key → Option Nat)
      (split : ∀ k, (current k = before.current k ∧ lost k = before.lost k) ∨
        (current k = none ∧ before.current k ≠ none ∧ lost k = before.current k)) :
      Moves before ⟨current, lost, before.accepted⟩

def Rising (accepted : List (Key × Nat)) : Prop :=
  accepted.Pairwise fun later earlier => later.1 = earlier.1 → earlier.2 < later.2

instance [DecidableEq Key] (accepted : List (Key × Nat)) : Decidable (Rising accepted) :=
  inferInstanceAs (Decidable (List.Pairwise _ _))

/-- Every stamp a register has taken is at most the one it holds, or else the one it lost. -/
structure Marks.Ordered (marks : Marks Key) : Prop where
  rising : Rising marks.accepted
  covered : ∀ k mark, (k, mark) ∈ marks.accepted →
    ∃ top, (marks.current k).or (marks.lost k) = some top ∧ mark ≤ top

theorem Moves.ordered [DecidableEq Key] {before after : Marks Key} (moves : Moves before after)
    (ordered : before.Ordered) : after.Ordered := by
  cases moves with
  | accept k mark above refill =>
    have below : ∀ old, (k, old) ∈ before.accepted → old < mark := by
      intro old mem
      obtain ⟨top, stored, le⟩ := ordered.covered k old mem
      cases held : before.current k with
      | none =>
        rw [held] at stored
        exact Nat.lt_of_le_of_lt le (refill top held stored)
      | some current =>
        rw [held] at stored
        cases stored
        exact Nat.lt_of_le_of_lt le (above top held)
    constructor
    · refine List.pairwise_cons.mpr ⟨?_, ordered.rising⟩
      rintro ⟨other, old⟩ mem same
      cases same
      exact below old mem
    · intro other old mem
      rcases List.mem_cons.mp mem with new | earlier
      · cases new
        exact ⟨mark, by simp, Nat.le_refl _⟩
      · by_cases same : other = k
        · subst same
          exact ⟨mark, by simp, Nat.le_of_lt (below old earlier)⟩
        · obtain ⟨top, stored, le⟩ := ordered.covered other old earlier
          exact ⟨top, by simpa [update_of_ne same] using stored, le⟩
  | sweep current lost split =>
    refine ⟨ordered.rising, fun k mark mem => ?_⟩
    obtain ⟨top, stored, le⟩ := ordered.covered k mark mem
    refine ⟨top, ?_, le⟩
    rcases split k with ⟨same, sameLost⟩ | ⟨emptied, held, moved⟩
    · simp only [same, sameLost, stored]
    · obtain ⟨row, present⟩ := Option.ne_none_iff_exists'.mp held
      rw [present, Option.some_or] at stored
      simp only [emptied, moved, present, Option.none_or, stored]

theorem Moves.idle [DecidableEq Key] (marks : Marks Key) : Moves marks marks :=
  .sweep marks.current marks.lost fun _ => .inl ⟨rfl, rfl⟩

end Marks

end Fetchit.Lib.Ratchet
