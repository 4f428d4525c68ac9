import Mathlib.Order.Basic
import Fetchit.Lib.Run

/-! A stored value that calls read whole, change in memory and write back whole, without a lock.
A call that writes back what it read before another one wrote undoes that write. -/
namespace Fetchit.Lib.Snapshot
open Run

variable {Value Call Arg : Type*}

/-- The stored value and the calls under way, each with the value it read. The values saved so far
and the calls that saved them are kept for what is said about a run. -/
structure State (Value Call Arg : Type*) where
  value : Value
  calls : List (Call × Value)
  saved : List Value
  finished : List (Call × Arg)

/-- A call ends with what it learned since it read the value, or fails. -/
inductive Event (Call Arg : Type*) where
  | load (call : Call)
  | finish (index : Nat) (arg : Arg)
  | fail (index : Nat)

def initial (value : Value) : State Value Call Arg := ⟨value, [], [], []⟩

section
variable (commit : Call → Arg → Value → Option Value)

def step (state : State Value Call Arg) : Event Call Arg → State Value Call Arg
  | .load call => { state with calls := state.calls ++ [(call, state.value)] }
  | .fail index => { state with calls := state.calls.eraseIdx index }
  | .finish index arg =>
    match state.calls[index]? with
    | none => state
    | some (call, loaded) =>
      match commit call arg loaded with
      | none => { state with calls := state.calls.eraseIdx index }
      | some value =>
        ⟨value, state.calls.eraseIdx index, state.saved ++ [value],
          state.finished ++ [(call, arg)]⟩

def Unraced (Allowed : Call → Arg → Value → Prop) (state : State Value Call Arg) :
    Event Call Arg → Prop
  | .finish index arg =>
    match state.calls[index]? with
    | none => True
    | some (call, loaded) => (commit call arg loaded).isSome = true →
        loaded = state.value ∧ Allowed call arg loaded
  | _ => True

instance [DecidableEq Value] {Allowed : Call → Arg → Value → Prop}
    [∀ call arg value, Decidable (Allowed call arg value)] (state : State Value Call Arg)
    (event : Event Call Arg) : Decidable (Unraced commit Allowed state event) := by
  unfold Unraced
  split
  · split <;> infer_instance
  · infer_instance

end

/-- What the run has made of the value: it is beyond every saved one, the last of them, and shows
what every finished call did. -/
structure Kept (Beyond : Value → Value → Prop) (Shows : Call → Arg → Value → Prop)
    (start : Value) (state : State Value Call Arg) : Prop where
  beyond : ∀ past ∈ state.saved, Beyond past state.value
  last : state.value = state.saved.getLast?.getD start
  shows : ∀ entry ∈ state.finished, Shows entry.1 entry.2 state.value

/-- Every allowed write goes beyond what it replaces and shows what its call did, and what a value
shows the values beyond it show. -/
structure Advances (commit : Call → Arg → Value → Option Value)
    (Allowed : Call → Arg → Value → Prop) (Beyond : Value → Value → Prop)
    (Shows : Call → Arg → Value → Prop) : Prop where
  refl : ∀ value, Beyond value value
  trans : ∀ first second third, Beyond first second → Beyond second third → Beyond first third
  writes : ∀ call arg value value', commit call arg value = some value' →
    Allowed call arg value → Beyond value value' ∧ Shows call arg value'
  lasts : ∀ call arg value value', Shows call arg value → Beyond value value' →
    Shows call arg value'

variable {commit : Call → Arg → Value → Option Value} {Beyond : Value → Value → Prop}
  {Shows Allowed : Call → Arg → Value → Prop} {start : Value} {state : State Value Call Arg}

section
variable (advances : Advances commit Allowed Beyond Shows)
include advances

theorem Kept.write
    (kept : Kept Beyond Shows start state) (written : commit call arg state.value = some value)
    (allowed : Allowed call arg state.value) :
    Kept Beyond Shows start
      ⟨value, calls, state.saved ++ [value], state.finished ++ [(call, arg)]⟩ := by
  obtain ⟨further, shown⟩ := advances.writes call arg _ value written allowed
  refine ⟨?_, by simp, ?_⟩
  · intro past mem
    rcases List.mem_append.mp mem with mem | mem
    · exact advances.trans _ _ _ (kept.beyond past mem) further
    · rw [List.mem_singleton.mp mem]
      exact advances.refl value
  · intro entry mem
    rcases List.mem_append.mp mem with mem | mem
    · exact advances.lasts _ _ _ _ (kept.shows entry mem) further
    · rw [List.mem_singleton.mp mem]
      exact shown

theorem Kept.step (event : Event Call Arg)
    (kept : Kept Beyond Shows start state) (unraced : Unraced commit Allowed state event) :
    Kept Beyond Shows start (step commit state event) := by
  cases event with
  | load | fail => exact ⟨kept.beyond, kept.last, kept.shows⟩
  | finish index arg =>
    dsimp only [Unraced] at unraced
    dsimp only [Snapshot.step]
    cases found : state.calls[index]? with
    | none => exact kept
    | some entry =>
      obtain ⟨call, loaded⟩ := entry
      rw [found] at unraced
      dsimp only at unraced ⊢
      cases written : commit call arg loaded with
      | none => exact ⟨kept.beyond, kept.last, kept.shows⟩
      | some value =>
        obtain ⟨same, allowed⟩ := unraced (by rw [written]; rfl)
        subst same
        exact kept.write advances written allowed

theorem kept_run (events : List (Event Call Arg))
    (unraced : Meets (step commit) (Unraced commit Allowed) (initial start) events) :
    Kept Beyond Shows start (run (step commit) (initial start) events) := by
  refine run_invariant (Kept Beyond Shows start) ?_ events _ ?_ unraced
  · intro state event kept unraced
    exact kept.step advances event unraced
  · refine ⟨?_, rfl, ?_⟩
    · intro past mem
      cases mem
    · intro entry mem
      cases mem

end

end Fetchit.Lib.Snapshot
