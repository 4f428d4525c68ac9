import Fetchit.Relay.Inbox

/-! Runs of the inbox. Requests are taken in the order in which they reach the replay window,
each some time after the one before it; the gates before the window may have read the clock at
any earlier moment. -/
namespace Fetchit.Relay.Inbox
open Lib Lib.Run Fedi.HttpDate

/-- One request. `elapsed` is the time since the request before it reached the window. -/
structure Arrival where
  elapsed : Nat
  around : Surroundings
  headers : HeaderMap
  body : Bytes

/-- A request that was handed to the sink, and when it was recorded. -/
structure Passed where
  ctx : InboxSignatureContext
  instant : Nat
  deriving DecidableEq

structure InboxState where
  replay : ReplayWindow
  clock : Nat
  passed : List Passed

def InboxState.initial (window cap : Nat) : InboxState := ⟨Window.empty window cap, 0, []⟩

def InboxState.fresh : InboxState := .initial replayWindowLength replayCap

section
variable (inbox : InboxConfig)

def verdict (state : InboxState) (arrival : Arrival) : Verdict :=
  runGates inbox arrival.around state.replay (state.clock + arrival.elapsed) arrival.headers
    arrival.body

def step (state : InboxState) (arrival : Arrival) : InboxState where
  replay := (verdict inbox state arrival).replay
  clock := state.clock + arrival.elapsed
  passed := ((verdict inbox state arrival).handover.map fun handover =>
    ⟨handover.ctx, state.clock + arrival.elapsed⟩).toList ++ state.passed

def Passed.Copies (first second : Passed) : Prop :=
  first.ctx.digest = second.ctx.digest ∧ first.ctx.date = second.ctx.date

instance (first second : Passed) : Decidable (first.Copies second) :=
  inferInstanceAs (Decidable (_ ∧ _))

def InboxState.PassedOnce (state : InboxState) : Prop :=
  state.passed.Pairwise fun first second => ¬ first.Copies second

instance (state : InboxState) : Decidable state.PassedOnce := by
  unfold InboxState.PassedOnce
  infer_instance

def InboxState.Room (state : InboxState) : Prop :=
  state.replay.entries.length < state.replay.cap

instance (state : InboxState) : Decidable state.Room := by
  unfold InboxState.Room
  infer_instance

def DatedWithin (window : Nat) (date : String) (now : Nat) : Prop :=
  match parseImfFixdate date with
  | none => True
  | some moment => moment ≤ now ∧ now < moment + window

instance (window : Nat) (date : String) (now : Nat) : Decidable (DatedWithin window date now) := by
  unfold DatedWithin
  split <;> infer_instance

/-- A request that reaches the replay window finds room there, and its date lies less than a
window back. `boot` is the wall-clock time at which the relay's monotonic clock started. -/
def Timely (boot : Nat) (state : InboxState) (arrival : Arrival) : Prop :=
  match preflight inbox arrival.around arrival.headers arrival.body with
  | .error _ => True
  | .ok (ctx, _) => state.Room ∧
      DatedWithin state.replay.window ctx.date (boot + (state.clock + arrival.elapsed))

instance (boot : Nat) (state : InboxState) (arrival : Arrival) :
    Decidable (Timely inbox boot state arrival) := by
  unfold Timely
  split <;> infer_instance

end

variable {inbox : InboxConfig}

def Passed.entry (passed : Passed) : ReplayKey × Nat := (passed.ctx.replayKey, passed.instant)

variable {state : InboxState} {arrival : Arrival} {ctx : InboxSignatureContext}
  {scheme : SignatureScheme}

theorem step_of_refusal
    (h : preflight inbox arrival.around arrival.headers arrival.body = .error refusal) :
    step inbox state arrival = { state with clock := state.clock + arrival.elapsed } := by
  unfold step verdict
  rw [runGates_of_error h]
  rfl

section
variable (h : preflight inbox arrival.around arrival.headers arrival.body = .ok (ctx, scheme))
include h

theorem step_replay :
    (step inbox state arrival).replay =
      (state.replay.record ctx.replayKey (state.clock + arrival.elapsed)).2 := by
  unfold step verdict
  rw [runGates_of_ok h, settle_replay]

theorem step_passed :
    (step inbox state arrival).passed =
      if (state.replay.record ctx.replayKey (state.clock + arrival.elapsed)).1 then
        ⟨ctx, state.clock + arrival.elapsed⟩ :: state.passed
      else state.passed := by
  unfold step verdict
  rw [runGates_of_ok h, settle_handover]
  split <;> rfl

end

/-- What the replay window knows of the requests that were handed over. -/
structure Watched (boot : Nat) (state : InboxState) : Prop where
  tracks : state.replay.Tracks state.clock (state.passed.map Passed.entry)
  past : ∀ passed ∈ state.passed, ∀ moment, parseImfFixdate passed.ctx.date = some moment →
    moment ≤ boot + passed.instant
  once : state.PassedOnce

theorem Watched.initial (boot : Nat) (window cap : Nat) :
    Watched boot (.initial window cap) where
  tracks := Window.tracks_nil _ _
  past := by
    intro passed mem
    cases mem
  once := List.Pairwise.nil

theorem replayKey_of_copies {first second : InboxSignatureContext}
    (digest : first.digest = second.digest) (date : first.date = second.date) :
    first.replayKey = second.replayKey := by
  unfold InboxSignatureContext.replayKey
  rw [digest, date]

theorem not_copies_of_new (watched : Watched boot state)
    (after : state.clock ≤ instant) (parsed : parseImfFixdate ctx.date = some moment)
    (within : boot + instant < moment + state.replay.window)
    (new : (state.replay.record ctx.replayKey instant).1 = true) :
    ∀ earlier ∈ state.passed, ¬ Passed.Copies ⟨ctx, instant⟩ earlier := by
  rintro earlier mem ⟨digest, date⟩
  have entered : (ctx.replayKey, earlier.instant) ∈ state.passed.map Passed.entry := by
    rw [replayKey_of_copies digest date]
    exact List.mem_map_of_mem mem
  have apart := watched.tracks.apart after entered new
  have past := watched.past earlier mem moment (date ▸ parsed)
  omega

theorem Watched.step (watched : Watched boot state) (timely : Timely inbox boot state arrival) :
    Watched boot (step inbox state arrival) := by
  have after : state.clock ≤ state.clock + arrival.elapsed := Nat.le_add_right _ _
  unfold Timely at timely
  split at timely
  · rename_i h
    rw [step_of_refusal h]
    exact ⟨watched.tracks.mono after, watched.past, watched.once⟩
  · rename_i ctx scheme h
    obtain ⟨room, within⟩ := timely
    obtain ⟨moment, parsed⟩ := preflight_date h
    unfold DatedWithin at within
    rw [parsed] at within
    by_cases new :
        (state.replay.record ctx.replayKey (state.clock + arrival.elapsed)).1 = true
    · refine ⟨?_, ?_, ?_⟩
      · rw [step_passed h, if_pos new, step_replay h]
        exact watched.tracks.record_new after room new
      · rw [step_passed h, if_pos new]
        intro passed mem other same
        rcases List.mem_cons.mp mem with rfl | mem
        · rw [parsed] at same
          cases same
          exact within.1
        · exact watched.past passed mem other same
      · unfold InboxState.PassedOnce
        rw [step_passed h, if_pos new]
        exact List.pairwise_cons.mpr
          ⟨not_copies_of_new watched after parsed within.2 new, watched.once⟩
    · refine ⟨?_, ?_, ?_⟩
      · rw [step_passed h, if_neg new, step_replay h]
        exact watched.tracks.record _ after room
      · rw [step_passed h, if_neg new]
        exact watched.past
      · unfold InboxState.PassedOnce
        rw [step_passed h, if_neg new]
        exact watched.once

/-- While the table has room and every request reaches the window less than a window after its
date, no two requests of one digest and date are handed to the sink. -/
theorem passedOnce_of_timely (inbox : InboxConfig) (boot : Nat) (window cap : Nat)
    (arrivals : List Arrival)
    (timely : Meets (step inbox) (Timely inbox boot) (.initial window cap) arrivals) :
    (run (step inbox) (.initial window cap) arrivals).PassedOnce := by
  have keeps : ∀ state arrival, Watched boot state → Timely inbox boot state arrival →
      Watched boot (step inbox state arrival) := by
    intro state arrival
    exact Watched.step
  have watched := run_invariant (Watched boot) keeps arrivals _ (.initial boot window cap) timely
  exact watched.once

def exampleArrival (elapsed now : Nat) : Arrival where
  elapsed := elapsed * second
  around := exampleSurroundings (now * second)
  headers := exampleHeaders "sig1=();keyid=\"u#k\""
    "Sun, 06 Nov 1994 08:49:37 GMT"
  body := exampleBody

theorem repeated_request_passes_once :
    let arrivals := [exampleArrival 10 784111787, exampleArrival 200 784111987]
    Meets (step exampleInbox) (Timely exampleInbox (784111777 * second)) .fresh arrivals ∧
      (run (step exampleInbox) .fresh arrivals).PassedOnce := by
  intro arrivals
  have timely : Meets (step exampleInbox) (Timely exampleInbox (784111777 * second)) .fresh
      arrivals := by
    decide +kernel
  exact ⟨timely, passedOnce_of_timely exampleInbox (784111777 * second) replayWindowLength
    replayCap arrivals timely⟩

/-- A request dated four minutes ahead is forgotten five minutes later, while its date is still
accepted. -/
theorem future_dated_request_passes_twice :
    let arrivals := [exampleArrival 0 784111537, exampleArrival 300 784111837]
    Meets (step exampleInbox) (fun state _ => state.Room) .fresh arrivals ∧
      ¬ (run (step exampleInbox) .fresh arrivals).PassedOnce := by
  decide +kernel

/-- The pair of a request that the sink rejected is in the table, or a window has passed. -/
structure Burned (key : ReplayKey) (since window : Nat) (state : InboxState) : Prop where
  tracks : state.replay.Tracks state.clock [(key, since)]
  only : ∀ time, (key, time) ∈ state.replay.entries → time = since
  length : state.replay.window = window

def Unrelated (inbox : InboxConfig) (key : ReplayKey) (state : InboxState) (arrival : Arrival) :
    Prop :=
  match preflight inbox arrival.around arrival.headers arrival.body with
  | .error _ => True
  | .ok (ctx, _) => state.Room ∧ ctx.replayKey ≠ key

theorem burned_of_rejected
    (cleared : preflight inbox arrival.around arrival.headers arrival.body = .ok (ctx, scheme))
    (rejected : (verdict inbox state arrival).result =
      .error (.serviceUnavailable .sinkRejected)) :
    Burned ctx.replayKey (state.clock + arrival.elapsed) state.replay.window
      (step inbox state arrival) := by
  unfold verdict at rejected
  rw [runGates_of_ok cleared] at rejected
  have new := settle_rejected rejected
  refine ⟨?_, ?_, ?_⟩
  · rw [step_replay cleared]
    intro entry mem
    rw [List.mem_singleton.mp mem]
    exact ⟨le_refl _, .inl (Window.mem_record_self new)⟩
  · rw [step_replay cleared]
    intro time mem
    exact Window.eq_of_mem_record new mem
  · rw [step_replay cleared, Window.record_window]

theorem Burned.step (burned : Burned key since window state)
    (unrelated : Unrelated inbox key state arrival) :
    Burned key since window (step inbox state arrival) := by
  have after : state.clock ≤ state.clock + arrival.elapsed := Nat.le_add_right _ _
  unfold Unrelated at unrelated
  split at unrelated
  · rename_i h
    rw [step_of_refusal h]
    exact ⟨burned.tracks.mono after, burned.only, burned.length⟩
  · rename_i ctx scheme h
    obtain ⟨room, other⟩ := unrelated
    refine ⟨?_, ?_, ?_⟩
    · rw [step_replay h]
      exact burned.tracks.record _ after room
    · rw [step_replay h]
      intro time mem
      rcases Window.mem_record mem with new | old
      · exact absurd (Prod.mk.inj new).1.symm other
      · exact burned.only time old
    · rw [step_replay h, Window.record_window]
      exact burned.length

theorem Burned.recorded_iff
    (burned : Burned key since window state) (after : state.clock ≤ instant) :
    (state.replay.record key instant).1 = true ↔ since + window ≤ instant := by
  constructor
  · intro new
    rw [← burned.length]
    exact burned.tracks.apart after List.mem_cons_self new
  · intro passed
    by_contra refused
    obtain ⟨time, mem, young⟩ := Window.record_refused.mp (Bool.not_eq_true _ ▸ refused)
    have same := burned.only time mem
    rw [burned.length] at young
    omega

/-- After the sink rejected a request, the same request is delivered only when a replay window has
passed since the rejected attempt. Other requests may come in between. -/
theorem retry_delivered_iff (inbox : InboxConfig) (state : InboxState) (first retry : Arrival)
    (between : List Arrival) (ctx : InboxSignatureContext) (scheme : SignatureScheme)
    (identical : retry.headers = first.headers ∧ retry.body = first.body)
    (rejected : (verdict inbox state first).result = .error (.serviceUnavailable .sinkRejected))
    (cleared : preflight inbox retry.around retry.headers retry.body = .ok (ctx, scheme))
    (accepts : ∀ delivery, retry.around.enqueue delivery = true)
    (unrelated : Meets (step inbox) (Unrelated inbox ctx.replayKey) (step inbox state first)
      between) :
    (verdict inbox (run (step inbox) (step inbox state first) between) retry).result = .ok () ↔
      state.clock + first.elapsed + state.replay.window ≤
        (run (step inbox) (step inbox state first) between).clock + retry.elapsed := by
  have burned : Burned ctx.replayKey (state.clock + first.elapsed) state.replay.window
      (step inbox state first) := by
    cases hfirst : preflight inbox first.around first.headers first.body with
    | error refusal =>
      unfold verdict at rejected
      rw [runGates_of_error hfirst] at rejected
      exact absurd (congrArg InboxError.status (Except.error.inj rejected)) (preflight_status hfirst)
    | ok found =>
      have extracted := preflight_ctx cleared
      rw [identical.1, preflight_ctx hfirst] at extracted
      cases extracted
      exact burned_of_rejected hfirst rejected
  have keeps : ∀ state' arrival,
      Burned ctx.replayKey (state.clock + first.elapsed) state.replay.window state' →
      Unrelated inbox ctx.replayKey state' arrival →
      Burned ctx.replayKey (state.clock + first.elapsed) state.replay.window
        (step inbox state' arrival) := by
    intro state' arrival
    exact Burned.step
  have still := run_invariant _ keeps between _ burned unrelated
  unfold verdict
  rw [runGates_of_ok cleared, settle_ok, still.recorded_iff (Nat.le_add_right _ _)]
  exact and_iff_left (accepts _)

def refusedArrival (now : Nat) : Arrival :=
  { exampleArrival 0 now with
    around := { exampleSurroundings (now * second) with enqueue := fun _ => false } }

def exampleContext : InboxSignatureContext where
  scheme := .rfc9421
  keyId := "u#k"
  date := "Sun, 06 Nov 1994 08:49:37 GMT"
  digest := "sha-256=:aGk=:"
  signatureInput := "sig1=();keyid=\"u#k\""
  signature := "sig1=:aw==:"
  host := "relay.example"
  targetUri := "https://relay.example/inbox"
  requestTarget := ""

theorem late_retry_delivered :
    (verdict exampleInbox (step exampleInbox .fresh (refusedArrival 784111627))
      (exampleArrival 300 784111927)).result = .ok () := by
  have rejected : (verdict exampleInbox .fresh (refusedArrival 784111627)).result =
      .error (.serviceUnavailable .sinkRejected) := by
    decide +kernel
  have cleared : preflight exampleInbox (exampleArrival 300 784111927).around
      (exampleArrival 300 784111927).headers (exampleArrival 300 784111927).body =
        .ok (exampleContext, .rfc9421) := by
    decide +kernel
  exact (retry_delivered_iff exampleInbox .fresh (refusedArrival 784111627)
    (exampleArrival 300 784111927) [] exampleContext .rfc9421 ⟨rfl, rfl⟩ rejected cleared
    (fun _ => rfl) trivial).mpr (by decide +kernel)

/-- A minute after the sink rejected it, the request is answered as a replay. -/
theorem prompt_retry_dropped :
    (verdict exampleInbox .fresh (refusedArrival 784111777)).result =
        .error (.serviceUnavailable .sinkRejected) ∧
      (verdict exampleInbox (step exampleInbox .fresh (refusedArrival 784111777))
        (exampleArrival 60 784111837)).result = .error (.unauthorized .replay) := by
  decide +kernel

end Fetchit.Relay.Inbox
