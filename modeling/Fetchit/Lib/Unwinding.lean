import Fetchit.Lib.Run

/-! Non-interference by unwinding. Some steps of a run are hidden from an observer; the run without
them is compared with the full one through a relation that a hidden step keeps on one side and a
visible step keeps on both. -/
namespace Fetchit.Lib.Unwinding
open Run

section
variable {State Event Answer : Type*} (step : State → Event → State)
  (hidden : State → Event → Bool) (observe : State → Event → Option Answer)

def purge : State → List Event → List Event
  | _, [] => []
  | state, event :: events =>
    if hidden state event then purge (step state event) events
    else event :: purge (step state event) events

def observed : State → List Event → List Answer
  | _, [] => []
  | state, event :: events => (observe state event).toList ++ observed (step state event) events

variable {step hidden observe} {alike : State → State → Prop} {condition : State → Event → Prop}

theorem unwinding
    (quiet : ∀ first second event, alike first second → condition first event →
      hidden first event = true →
        alike (step first event) second ∧ observe first event = none)
    (stepwise : ∀ first second event, alike first second → condition first event →
      hidden first event = false →
        alike (step first event) (step second event) ∧
          observe first event = observe second event) (events : List Event) :
    ∀ first second, alike first second → Meets step condition first events →
      alike (run step first events) (run step second (purge step hidden first events)) ∧
        observed step observe first events =
          observed step observe second (purge step hidden first events) := by
  induction events with
  | nil =>
    intro first second same _
    exact ⟨same, rfl⟩
  | cons event events ih =>
    intro first second same meets
    cases seen : hidden first event with
    | true =>
      obtain ⟨kept, silent⟩ := quiet first second event same meets.1 seen
      rw [purge, if_pos seen, observed, silent]
      exact ih _ _ kept meets.2
    | false =>
      obtain ⟨kept, answered⟩ := stepwise first second event same meets.1 seen
      rw [purge, if_neg (by simp [seen]), observed, answered]
      obtain ⟨final, rest⟩ := ih _ _ kept meets.2
      exact ⟨final, congrArg _ rest⟩

end

end Fetchit.Lib.Unwinding
