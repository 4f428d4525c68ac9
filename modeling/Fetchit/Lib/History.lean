import Mathlib.Data.List.Basic

/-! Histories of a run, newest note first. What a note asserts may have to be backed by the
notes before it; appending a backed note keeps the whole history backed. -/
namespace Fetchit.Lib.History

section
variable {Note : Type*} (reason : Note → List Note → Prop)

def Justified (history : List Note) : Prop :=
  ∀ later note earlier, history = later ++ note :: earlier → reason note earlier

variable {reason}

theorem justified_nil : Justified reason [] := by
  intro later note earlier split
  simp at split

theorem justified_cons :
    Justified reason (note :: history) ↔ reason note history ∧ Justified reason history := by
  constructor
  · intro h
    refine ⟨h [] note history rfl, ?_⟩
    intro later other earlier split
    exact h (note :: later) other earlier (by rw [split, List.cons_append])
  · rintro ⟨backed, h⟩ later other earlier split
    cases later with
    | nil =>
      cases split
      exact backed
    | cons first later =>
      cases split
      exact h later other earlier rfl

theorem justified_append (h : Justified reason history)
    (backed : ∀ note ∈ notes, ∀ newer, reason note (newer ++ history)) :
    Justified reason (notes ++ history) := by
  induction notes with
  | nil => exact h
  | cons note notes ih =>
    refine justified_cons.mpr ⟨backed note List.mem_cons_self notes, ih ?_⟩
    intro other mem
    exact backed other (List.mem_cons_of_mem _ mem)

end

end Fetchit.Lib.History
