import Mathlib.Data.List.Basic

/-! Runs of a deterministic step function. A condition on single steps is
lifted to a whole run, each step being judged in the state it meets, and an
invariant is carried along every run whose steps meet the condition. -/
namespace Fetchit.Lib.Run

section
variable {State Event : Type*} (step : State → Event → State)

def run (state : State) (events : List Event) : State :=
  events.foldl step state

@[simp] theorem run_nil (state : State) : run step state [] = state := rfl

@[simp] theorem run_cons (state : State) (event : Event) (events : List Event) :
    run step state (event :: events) = run step (step state event) events := rfl

theorem run_append (state : State) (first second : List Event) :
    run step state (first ++ second) = run step (run step state first) second := by
  simp [run]

def Meets (condition : State → Event → Prop) : State → List Event → Prop
  | _, [] => True
  | state, event :: events =>
    condition state event ∧ Meets condition (step state event) events

variable {step} {condition : State → Event → Prop}

@[simp] theorem meets_nil (state : State) : Meets step condition state [] ↔ True :=
  Iff.rfl

@[simp] theorem meets_cons (state : State) (event : Event) (events : List Event) :
    Meets step condition state (event :: events) ↔
      condition state event ∧ Meets step condition (step state event) events :=
  Iff.rfl

instance decidableMeets [∀ state event, Decidable (condition state event)] :
    ∀ (state : State) (events : List Event), Decidable (Meets step condition state events)
  | _, [] => isTrue trivial
  | state, event :: events =>
    have := decidableMeets (step state event) events
    inferInstanceAs (Decidable (condition state event ∧ _))

theorem meets_append (state : State) (first second : List Event) :
    Meets step condition state (first ++ second) ↔
      Meets step condition state first ∧
        Meets step condition (run step state first) second := by
  induction first generalizing state with
  | nil => simp
  | cons event events ih => simp [ih, and_assoc]

theorem meets_of_forall (h : ∀ event ∈ events, ∀ state, condition state event) :
    ∀ state, Meets step condition state events := by
  induction events with
  | nil =>
    intro state
    exact trivial
  | cons event events ih =>
    intro state
    refine ⟨h event List.mem_cons_self state, ih ?_ _⟩
    intro later mem
    exact h later (List.mem_cons_of_mem _ mem)

theorem run_invariant (invariant : State → Prop)
    (keeps : ∀ state event, invariant state → condition state event →
      invariant (step state event)) (events : List Event) :
    ∀ state, invariant state → Meets step condition state events →
      invariant (run step state events) := by
  induction events with
  | nil =>
    intro state held _
    exact held
  | cons event events ih =>
    intro state held meets
    exact ih (step state event) (keeps state event held meets.1) meets.2

theorem run_keeps (invariant : State → Prop)
    (keeps : ∀ state event, invariant state → invariant (step state event))
    (events : List Event) (held : invariant state) : invariant (run step state events) := by
  induction events generalizing state with
  | nil => exact held
  | cons event events ih => exact ih (keeps state event held)

end

section
variable {State Part View : Type*} [DecidableEq Part] {step : State → Part → State}
  (view : State → Part → View) (update : Part → View → View)

section
variable (own : ∀ state part other, view (step state part) other =
  if other = part then update other (view state other) else view state other)
include own

theorem view_run_of_notMem (absent : part ∉ parts) :
    ∀ state, view (run step state parts) part = view state part := by
  induction parts with
  | nil =>
    intro state
    rfl
  | cons first rest ih =>
    intro state
    rw [List.mem_cons, not_or] at absent
    rw [run_cons, ih absent.2, own, if_neg absent.1]

theorem view_run (distinct : parts.Nodup) (mem : part ∈ parts) :
    ∀ state, view (run step state parts) part = update part (view state part) := by
  induction parts with
  | nil => cases mem
  | cons first rest ih =>
    intro state
    rw [List.nodup_cons] at distinct
    rw [run_cons]
    by_cases same : part = first
    · subst same
      rw [view_run_of_notMem view update own distinct.1, own, if_pos rfl]
    · rw [ih distinct.2 (List.mem_of_ne_of_mem same mem), own, if_neg same]

end

end

end Fetchit.Lib.Run
