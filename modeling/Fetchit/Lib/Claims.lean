import Mathlib.Data.List.Nodup
import Mathlib.Data.List.Perm.Basic

/-! Claims of several holders on shared things. A thing is marked before a holder counts on it;
the claims are exclusive when every claim that is counted on is marked and no thing is counted on
twice. Taking only what is unmarked, giving back what is held and losing a holder all keep the
claims exclusive. -/
namespace Fetchit.Lib

structure Exclusive {Id : Type*} (marked : Id → Prop) (held : List Id) : Prop where
  nodup : held.Nodup
  marked : ∀ id ∈ held, marked id

namespace Exclusive
variable {Id : Type*} {marked marked' : Id → Prop} {held held' claimed gone : List Id}

theorem nil : Exclusive marked ([] : List Id) :=
  ⟨List.nodup_nil, fun _ mem => absurd mem List.not_mem_nil⟩

theorem perm (exclusive : Exclusive marked held) (same : held.Perm held') :
    Exclusive marked held' :=
  ⟨same.nodup_iff.mp exclusive.nodup, fun id mem => exclusive.marked id (same.mem_iff.mpr mem)⟩

theorem claim (exclusive : Exclusive marked held) (distinct : claimed.Nodup)
    (unmarked : ∀ id ∈ claimed, ¬marked id) (marks : ∀ id, marked id ∨ id ∈ claimed → marked' id) :
    Exclusive marked' (claimed ++ held) := by
  constructor
  · rw [List.nodup_append]
    refine ⟨distinct, exclusive.nodup, ?_⟩
    rintro id new _ old rfl
    exact unmarked id new (exclusive.marked id old)
  · intro id mem
    rcases List.mem_append.mp mem with new | old
    · exact marks id (.inr new)
    · exact marks id (.inl (exclusive.marked id old))

theorem release (exclusive : Exclusive marked (gone ++ held))
    (kept : ∀ id, marked id → id ∉ gone → marked' id) : Exclusive marked' held := by
  obtain ⟨distinct, marks⟩ := exclusive
  rw [List.nodup_append] at distinct
  refine ⟨distinct.2.1, ?_⟩
  intro id mem
  refine kept id (marks id (List.mem_append_right _ mem)) ?_
  intro given
  exact distinct.2.2 id given id mem rfl

theorem keep (exclusive : Exclusive marked held)
    (kept : ∀ id ∈ held, marked id → marked' id) : Exclusive marked' held :=
  ⟨exclusive.nodup, fun id mem => kept id mem (exclusive.marked id mem)⟩

end Exclusive

section
variable {Id Holder : Type*} (claims : Holder → List Id)

theorem perm_flatMap_set {holders : List Holder} (found : holders[turn]? = some holder) :
    ∃ others, (holders.flatMap claims).Perm (claims holder ++ others) ∧
      ∀ next, ((holders.set turn next).flatMap claims).Perm (claims next ++ others) := by
  induction holders generalizing turn with
  | nil => simp at found
  | cons first rest ih =>
    cases turn with
    | zero =>
      rw [List.getElem?_cons_zero, Option.some_inj] at found
      subst found
      exact ⟨rest.flatMap claims, List.Perm.refl _, fun next => List.Perm.refl _⟩
    | succ turn =>
      obtain ⟨others, before, after⟩ := ih found
      refine ⟨claims first ++ others, ?_, fun next => ?_⟩
      · exact (before.append_left _).trans (List.perm_append_comm_assoc ..)
      · exact ((after next).append_left _).trans (List.perm_append_comm_assoc ..)

end

end Fetchit.Lib
