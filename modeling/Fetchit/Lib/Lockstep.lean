import Mathlib.Data.List.Forall2
import Fetchit.Lib.Run

/-! Two machines that are given the same calls. A relation between their states that makes them
answer alike, and that every call keeps, makes them answer alike along whole runs. -/
namespace Fetchit.Lib.Lockstep
open Run

variable {State Left Right Call Answer : Type*}

def next (call : State → Call → Answer × State) (state : State) (request : Call) : State :=
  (call state request).2

def answers (call : State → Call → Answer × State) : State → List Call → List Answer
  | _, [] => []
  | state, request :: requests =>
    (call state request).1 :: answers call (next call state request) requests

def both (left : Left → Call → Answer × Left) (right : Right → Call → Answer × Right)
    (pair : Left × Right) (request : Call) : Left × Right :=
  (next left pair.1 request, next right pair.2 request)

variable {left : Left → Call → Answer × Left} {right : Right → Call → Answer × Right}
  {condition : Left × Right → Call → Prop} {alike : Left → Right → Prop}

theorem lockstep
    (stepwise : ∀ first second request, alike first second → condition (first, second) request →
      (left first request).1 = (right second request).1 ∧
        alike (left first request).2 (right second request).2) (requests : List Call) :
    ∀ first second, alike first second →
      Meets (both left right) condition (first, second) requests →
        answers left first requests = answers right second requests ∧
          alike (run (next left) first requests) (run (next right) second requests) := by
  induction requests with
  | nil =>
    intro first second same _
    exact ⟨rfl, same⟩
  | cons request requests ih =>
    intro first second same meets
    obtain ⟨answered, kept⟩ := stepwise first second request same meets.1
    obtain ⟨rest, final⟩ := ih _ _ kept meets.2
    refine ⟨?_, final⟩
    rw [answers, answered]
    exact congrArg _ rest

theorem forall₂_filter {same : Row → Other → Prop} {keep : Row → Bool}
    {keep' : Other → Bool} (together : ∀ row other, same row other → keep row = keep' other)
    {rows : List Row} {others : List Other} (h : List.Forall₂ same rows others) :
    List.Forall₂ same (rows.filter keep) (others.filter keep') := by
  refine List.rel_filter ?_ h
  intro row other alike
  exact Bool.eq_iff_iff.mp (together row other alike)

end Fetchit.Lib.Lockstep
