import Mathlib.Data.List.Induction
import Fetchit.Lib.Run

/-! What happened before in a run: the states it went through, and the step that brought about
what holds in the end. -/
namespace Fetchit.Lib.Past
open Run

section
variable {State Event : Type*} (step : State → Event → State) (start : State)

def Once (holds : State → Prop) (events : List Event) : Prop :=
  ∃ early late, events = early ++ late ∧ holds (run step start early)

def Took (taken : State → Event → Prop) (events : List Event) : Prop :=
  ∃ early event late, events = early ++ event :: late ∧ taken (run step start early) event

variable {step start} {events : List Event}

theorem Took.back (took : Took step start taken events)
    (explains : ∀ early event, taken (run step start early) event →
      Took step start cause early) : Took step start cause events := by
  obtain ⟨early, event, late, split, held⟩ := took
  obtain ⟨before, first, between, earlier, caused⟩ := explains early event held
  refine ⟨before, first, between ++ event :: late, ?_, caused⟩
  rw [split, earlier, List.append_assoc, List.cons_append]

/-- What holds in the end and did not hold at the start was brought about by a step, and no step
since has undone it. -/
theorem brought_about_since {now : State → Prop} {cause : State → Event → Prop}
    {undoes : Event → Prop} (begins : ¬ now start)
    (steps : ∀ state event, now (step state event) →
      now state ∧ ¬ undoes event ∨ cause state event)
    (events : List Event) (holds : now (run step start events)) :
    ∃ early event late, events = early ++ event :: late ∧ cause (run step start early) event ∧
      ∀ later ∈ late, ¬ undoes later := by
  induction events using List.reverseRecOn with
  | nil => exact absurd holds begins
  | append_singleton events event ih =>
    rw [run_append] at holds
    rcases steps _ event holds with ⟨before, keeps⟩ | caused
    · obtain ⟨early, first, late, split, held, since⟩ := ih before
      refine ⟨early, first, late ++ [event], ?_, held, ?_⟩
      · rw [split, List.append_assoc, List.cons_append]
      · intro later mem
        rcases List.mem_append.mp mem with old | new
        · exact since later old
        · rw [List.mem_singleton.mp new]
          exact keeps
    · exact ⟨events, event, [], rfl, caused, nofun⟩

theorem brought_about {now : State → Prop} (begins : ¬ now start)
    (steps : ∀ state event, now (step state event) → now state ∨ cause state event)
    (events : List Event) (holds : now (run step start events)) :
    Took step start cause events := by
  have lasting : ∀ state event, now (step state event) →
      now state ∧ ¬ False ∨ cause state event := by
    intro state event later
    exact (steps state event later).imp_left fun held => ⟨held, not_false⟩
  obtain ⟨early, event, late, split, caused, _⟩ :=
    brought_about_since begins lasting events holds
  exact ⟨early, event, late, split, caused⟩

end

end Fetchit.Lib.Past
