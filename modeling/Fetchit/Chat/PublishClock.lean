import Mathlib.Data.String.Basic
import Fetchit.Lib.Outcome
import Fetchit.Lib.SortedMap
import Fetchit.Lib.Unwinding

/-! The clock that stamps published records. Each agent of the device has a watermark in one file;
a stamp is above the watermark and becomes it, and a relay that refuses a record may raise it. A
write replaces the file or leaves it as it was. -/
namespace Fetchit.Chat.PublishClock
open Lib Lib.Run Lib.Outcome Lib.Unwinding

abbrev Watermarks := SortedMap String Nat

def u64Max : Nat := 2 ^ 64 - 1

inductive WatermarkError where
  | invalid (reason : String)
  | io
  deriving DecidableEq

def currentWatermark (map : Watermarks) (agent : String) : Option Nat := map.get? agent

def persist (map : Watermarks) (agent : String) (value : Nat) (written : Bool) :
    Except WatermarkError Nat × Watermarks :=
  if written then (.ok value, map.insert agent value) else (.error .io, map)

def nextValue (last wallClockMs : Nat) : Except WatermarkError Nat := do
  require (last ≠ u64Max) (.invalid "pair-record watermark is corrupt (u64::MAX)")
  let next := max wallClockMs (min (last + 1) u64Max)
  require (next ≠ u64Max)
    (.invalid "pair-record watermark would reach u64::MAX (corrupt clock input)")
  .ok next

def nextIssuedAtMs (map : Watermarks) (agent : String) (wallClockMs : UInt64) (written : Bool) :
    Except WatermarkError Nat × Watermarks :=
  match nextValue ((map.get? agent).getD 0) wallClockMs.toNat with
  | .error error => (.error error, map)
  | .ok next => persist map agent next written

def observeExternalWatermark (map : Watermarks) (agent : String) (observedMs : UInt64)
    (written : Bool) : Except WatermarkError Unit × Watermarks :=
  if observedMs.toNat = u64Max then
    (.error (.invalid "pair-record watermark is corrupt (u64::MAX)"), map)
  else if observedMs.toNat ≤ (map.get? agent).getD 0 then (.ok (), map)
  else
    let (outcome, map) := persist map agent observedMs.toNat written
    (outcome.map fun _ => (), map)

inductive Call where
  | next (agent : String) (wallClockMs : UInt64) (written : Bool)
  | observe (agent : String) (observedMs : UInt64) (written : Bool)
  deriving DecidableEq

def Call.agent : Call → String
  | .next agent .. | .observe agent .. => agent

def step (map : Watermarks) : Call → Watermarks
  | .next agent wall written => (nextIssuedAtMs map agent wall written).2
  | .observe agent observed written => (observeExternalWatermark map agent observed written).2

def stamp (agent : String) (map : Watermarks) : Call → Option Nat
  | .next other wall written =>
    if other = agent then (nextIssuedAtMs map other wall written).1.toOption else none
  | .observe .. => none

def stamps (agent : String) (map : Watermarks) (calls : List Call) : List Nat :=
  observed step (stamp agent) map calls

def watermark (agent : String) (map : Watermarks) : Nat := (map.get? agent).getD 0

def Sane (agent : String) (call : Call) : Prop :=
  ∃ wall : UInt64, wall.toNat < u64Max ∧ call = .next agent wall true

variable {agent : String} {map : Watermarks} {call : Call} {last wall value : Nat}

theorem nextValue_eq_ok : nextValue last wall = .ok value ↔
    last ≠ u64Max ∧ value ≠ u64Max ∧ value = max wall (min (last + 1) u64Max) := by
  simp only [nextValue, bind_eq_ok, require_eq_ok, decide_eq_true_eq, exists_const]
  constructor
  · rintro ⟨room, free, chosen⟩
    cases chosen
    exact ⟨room, free, rfl⟩
  · rintro ⟨room, free, rfl⟩
    exact ⟨room, free, rfl⟩

theorem step_of_stamp (stamped : stamp agent map call = some value) :
    watermark agent map < value ∧ step map call = map.insert agent value := by
  cases call with
  | observe => cases stamped
  | next other wall written =>
    simp only [stamp, step, nextIssuedAtMs] at stamped ⊢
    split at stamped
    · next same =>
      subst same
      split at stamped
      · cases stamped
      · next valued =>
        cases written with
        | false => cases stamped
        | true =>
          cases stamped
          obtain ⟨room, free, chosen⟩ := nextValue_eq_ok.mp valued
          have bound := wall.toNat_lt
          refine ⟨?_, rfl⟩
          unfold watermark
          unfold u64Max at free chosen
          omega
    · cases stamped

theorem step_cases (map : Watermarks) (call : Call) :
    step map call = map ∨
      ∃ value, watermark call.agent map < value ∧ step map call = map.insert call.agent value := by
  cases call with
  | next other wall written =>
    cases stamped : stamp other map (.next other wall written) with
    | some value => exact .inr ⟨value, step_of_stamp stamped⟩
    | none =>
      left
      simp only [stamp, step, nextIssuedAtMs, if_true] at stamped ⊢
      split at stamped
      · rfl
      · cases written with
        | false => rfl
        | true => cases stamped
  | observe other observed written =>
    simp only [step, observeExternalWatermark]
    split
    · exact .inl rfl
    · split
      · exact .inl rfl
      · next above =>
        cases written with
        | false => exact .inl rfl
        | true => exact .inr ⟨observed.toNat, Nat.lt_of_not_le above, rfl⟩

theorem get?_step_of_other (other : call.agent ≠ agent) :
    (step map call).get? agent = map.get? agent := by
  rcases step_cases map call with same | ⟨value, _, raised⟩
  · rw [same]
  · rw [raised, SortedMap.get?_insert, if_neg other.symm]

theorem watermark_le_step (agent : String) (map : Watermarks) (call : Call) :
    watermark agent map ≤ watermark agent (step map call) := by
  rcases step_cases map call with same | ⟨value, above, raised⟩
  · rw [same]
  · rw [raised]
    unfold watermark at above ⊢
    rw [SortedMap.get?_insert]
    split
    · next same =>
      subst same
      exact above.le
    · exact Nat.le_refl _

theorem pairwise_stamps (agent : String) (calls : List Call) : ∀ map,
    (stamps agent map calls).Pairwise (· < ·) ∧
      ∀ value ∈ stamps agent map calls, watermark agent map < value := by
  induction calls with
  | nil => simp [stamps, observed]
  | cons call calls ih =>
    intro map
    obtain ⟨increasing, above⟩ := ih (step map call)
    have grown := watermark_le_step agent map call
    simp only [stamps, observed] at increasing above ⊢
    cases stamped : stamp agent map call with
    | none =>
      refine ⟨increasing, fun value mem => ?_⟩
      have := above value mem
      omega
    | some value =>
      obtain ⟨below, raised⟩ := step_of_stamp stamped
      have reached : watermark agent (step map call) = value := by simp [raised, watermark]
      rw [reached] at above
      refine ⟨List.pairwise_cons.mpr ⟨above, increasing⟩, fun other mem => ?_⟩
      rcases List.mem_cons.mp mem with rfl | later
      · exact below
      · exact below.trans (above other later)

theorem stamp_isSome_iff (map : Watermarks) (sane : Sane agent call) :
    (stamp agent map call).isSome ↔ watermark agent map + 1 < u64Max := by
  obtain ⟨wall, below, rfl⟩ := sane
  have stamped : stamp agent map (.next agent wall true) =
      (nextValue (watermark agent map) wall.toNat).toOption := by
    simp only [stamp, nextIssuedAtMs]
    unfold watermark
    cases nextValue ((map.get? agent).getD 0) wall.toNat <;> rfl
  rw [stamped, Option.isSome_iff_exists]
  simp only [toOption_eq_some, nextValue_eq_ok]
  constructor
  · omega
  · intro room
    refine ⟨_, ?_, ?_, rfl⟩ <;> omega

theorem stamps_of_full (full : u64Max ≤ watermark agent map + 1) :
    (∀ call ∈ calls, Sane agent call) → stamps agent map calls = [] := by
  induction calls generalizing map with
  | nil => exact fun _ => rfl
  | cons call calls ih =>
    intro sane
    have none : stamp agent map call = none := by
      have refused := (stamp_isSome_iff map (sane call List.mem_cons_self)).not
      simpa using refused.mpr (by omega)
    have grown := watermark_le_step agent map call
    simp only [stamps, observed] at ih ⊢
    rw [none]
    exact ih (by omega) fun later mem => sane later (List.mem_cons_of_mem _ mem)

/-- After any calls the stamps of an agent have increased, a call for another agent leaves its
watermark alone, and sane calls can return a further stamp exactly if the watermark leaves room. -/
theorem publish_clock (calls : List Call) (agent : String) :
    (stamps agent .empty calls).Pairwise (· < ·) ∧
      (∀ call, call.agent ≠ agent → currentWatermark (step (run step .empty calls) call) agent =
        currentWatermark (run step .empty calls) agent) ∧
      ((∃ later, (∀ call ∈ later, Sane agent call) ∧
          stamps agent (run step .empty calls) later ≠ []) ↔
        watermark agent (run step .empty calls) + 1 < u64Max) := by
  refine ⟨(pairwise_stamps agent calls .empty).1, fun _ => get?_step_of_other, ?_⟩
  constructor
  · rintro ⟨later, sane, some⟩
    by_contra full
    exact some (stamps_of_full (by omega) sane)
  · intro room
    have sane : Sane agent (.next agent 0 true) := ⟨0, by decide, rfl⟩
    refine ⟨[.next agent 0 true], by simpa using sane, ?_⟩
    obtain ⟨value, stamped⟩ := Option.isSome_iff_exists.mp ((stamp_isSome_iff _ sane).mpr room)
    simp [stamps, observed, stamped]

/-- A relay that reports the largest number but one stops all further stamps. -/
theorem observed_watermark_stops_clock :
    (observeExternalWatermark .empty "a" 18446744073709551614 true).1 = .ok () ∧
      ∀ later, (∀ call ∈ later, Sane "a" call) →
        stamps "a" (step .empty (.observe "a" 18446744073709551614 true)) later = [] := by
  refine ⟨rfl, fun later => stamps_of_full ?_⟩
  decide +kernel

end Fetchit.Chat.PublishClock
