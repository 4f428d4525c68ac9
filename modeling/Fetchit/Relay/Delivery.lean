import Fetchit.Fedi.Transport
import Fetchit.Relay.ReplayGate

/-! One outbound delivery against the relay inbox it is addressed to. The network may delay or
lose each copy of the request and each response; requests of others reach the inbox in between. -/
namespace Fetchit.Relay.Inbox
open Lib Lib.Run Fedi.Json Fedi.HttpDate Fedi.HttpSignature Fedi.Transport

def visibleText (value : String) : Option String :=
  if value.toList.all fun c => ' ' ≤ c && c ≤ '~' || c == '\t' then some value else none

def arrivingHeaders (url : Destination) (signed : OutboundSignedHeaders) : HeaderMap :=
  ("host", (hostFromUrl url).toOption) ::
    ("content-type", some "application/activity+json") ::
    signed.intoRequestHeaders.map fun header => (header.1.toLower, visibleText header.2)

def responseStatus : Except InboxError Unit → Nat
  | .ok () => 202
  | .error error => error.status

/-- A call and its inbox. Copies under way and responses under way carry the number of their
post. -/
structure World where
  inbox : InboxState
  phase : Phase
  post : Nat
  flight : List (Nat × OutboundSignedHeaders)
  responses : List (Nat × Nat)
  enqueued : Nat

def World.start (inbox : InboxState) (call : Call) : World :=
  ⟨inbox, .posting 1, 1, [(1, call.primary)], [], 0⟩

inductive NetworkEvent where
  /-- A copy reaches the replay window of the inbox. -/
  | reach (index elapsed : Nat) (around : Surroundings)
  | other (arrival : Arrival)
  /-- The response to the current post arrives. -/
  | respond
  /-- The current post ends without the inbox: an intermediary answers, or the post fails. -/
  | interrupt (answer : Except String Nat)
  | drop (index : Nat)

section
variable (inbox : InboxConfig) (call : Call)

def arrivalOf (elapsed : Nat) (around : Surroundings) (signed : OutboundSignedHeaders) : Arrival :=
  ⟨elapsed, around, arrivingHeaders call.inboxUrl signed, call.body⟩

def World.reach (world : World) (index post : Nat) (arrival : Arrival) : World :=
  let response := (verdict inbox world.inbox arrival).result
  { world with
    inbox := step inbox world.inbox arrival
    flight := world.flight.eraseIdx index
    responses := (post, responseStatus response) :: world.responses
    enqueued := if response = .ok () then world.enqueued + 1 else world.enqueued }

def World.answer (world : World) (answer : Except String Nat) : World :=
  let phase := call.advance world.phase answer
  match call.posts phase with
  | some signed =>
    { world with
      phase := phase
      post := world.post + 1
      flight := (world.post + 1, signed) :: world.flight }
  | none => { world with phase := phase }

def networkStep (world : World) : NetworkEvent → World
  | .reach index elapsed around =>
    match world.flight[index]? with
    | some copy => world.reach inbox index copy.1 (arrivalOf call elapsed around copy.2)
    | none => world
  | .other arrival => { world with inbox := step inbox world.inbox arrival }
  | .respond =>
    match world.responses.lookup world.post with
    | some status => world.answer call (.ok status)
    | none => world
  | .interrupt answer => world.answer call answer
  | .drop index => { world with flight := world.flight.eraseIdx index }

/-- A 401 to a post in the first format comes when no copy was enqueued and none is under way. -/
def SafeAnswer (world : World) (answer : Except String Nat) : Prop :=
  match world.phase with
  | .posting _ => answer = .ok 401 → world.enqueued = 0 ∧ world.flight = []
  | _ => True

instance (world : World) (answer : Except String Nat) : Decidable (SafeAnswer world answer) := by
  unfold SafeAnswer
  split <;> infer_instance

def Undoubled (boot : Nat) (world : World) : NetworkEvent → Prop
  | .reach index elapsed around =>
    match world.flight[index]? with
    | some copy => Timely inbox boot world.inbox (arrivalOf call elapsed around copy.2)
    | none => True
  | .other arrival => Timely inbox boot world.inbox arrival
  | .respond =>
    match world.responses.lookup world.post with
    | some status => SafeAnswer world (.ok status)
    | none => True
  | .interrupt answer => SafeAnswer world answer
  | .drop _ => True

instance (boot : Nat) (world : World) (event : NetworkEvent) :
    Decidable (Undoubled inbox call boot world event) := by
  unfold Undoubled
  split
  · split <;> infer_instance
  · infer_instance
  · split <;> infer_instance
  · infer_instance
  · infer_instance

end

variable {inbox : InboxConfig} {call : Call} {boot : Nat}

/-- Every copy is the one in the first format, and one of them at most was enqueued. -/
structure OneFormat (call : Call) (world : World) : Prop where
  copies : ∀ copy ∈ world.flight, copy.2 = call.primary
  atMost : world.enqueued ≤ 1
  passed : world.enqueued ≠ 0 → ∃ passed ∈ world.inbox.passed,
    extractInboxSignatureContext (arrivingHeaders call.inboxUrl call.primary) "/inbox" =
      .ok passed.ctx

/-- Nothing more is posted, and there is at most one copy in all. -/
structure OneCopy (world : World) : Prop where
  quiet : ∀ attempt, world.phase ≠ .posting attempt
  atMost : world.enqueued + world.flight.length ≤ 1

structure Delivering (boot : Nat) (call : Call) (world : World) : Prop where
  watched : Watched boot world.inbox
  single : OneFormat call world ∨ OneCopy world

variable {arrival : Arrival}

theorem passed_of_ok (accepted : (verdict inbox state arrival).result = .ok ()) :
    ∃ ctx scheme, preflight inbox arrival.around arrival.headers arrival.body =
        .ok (ctx, scheme) ∧
      (state.replay.record ctx.replayKey (state.clock + arrival.elapsed)).1 = true := by
  unfold verdict at accepted
  cases h : preflight inbox arrival.around arrival.headers arrival.body with
  | error refusal =>
    rw [runGates_of_error h] at accepted
    cases accepted
  | ok found =>
    obtain ⟨ctx, scheme⟩ := found
    rw [runGates_of_ok h, settle_ok] at accepted
    exact ⟨ctx, scheme, rfl, accepted.1⟩

theorem mem_step_passed (arrival : Arrival)
    (mem : passed ∈ state.passed) : passed ∈ (step inbox state arrival).passed := by
  exact List.mem_append_right _ mem

theorem OneFormat.reach (single : OneFormat call world)
    (watched : Watched boot world.inbox) (timely : Timely inbox boot world.inbox arrival)
    (headers : arrival.headers = arrivingHeaders call.inboxUrl call.primary) :
    OneFormat call (world.reach inbox index post arrival) := by
  have copies : ∀ copy ∈ (world.reach inbox index post arrival).flight, copy.2 = call.primary := by
    intro copy mem
    exact single.copies copy (List.mem_of_mem_eraseIdx mem)
  by_cases accepted : (verdict inbox world.inbox arrival).result = .ok ()
  · obtain ⟨ctx, scheme, cleared, new⟩ := passed_of_ok accepted
    have extracted := preflight_ctx cleared
    rw [headers] at extracted
    have none_before : world.enqueued = 0 := by
      by_contra some_before
      obtain ⟨earlier, mem, same⟩ := single.passed some_before
      rw [extracted] at same
      cases same
      obtain ⟨moment, parsed⟩ := preflight_date cleared
      unfold Timely at timely
      rw [cleared] at timely
      have within := timely.2
      unfold DatedWithin at within
      rw [parsed] at within
      exact not_copies_of_new watched (Nat.le_add_right _ _) parsed within.2 new earlier mem
        ⟨rfl, rfl⟩
    refine ⟨copies, ?_, ?_⟩
    · simp only [World.reach, if_pos accepted, none_before]
      exact le_refl _
    · intro _
      refine ⟨⟨ctx, world.inbox.clock + arrival.elapsed⟩, ?_, extracted⟩
      simp only [World.reach]
      rw [step_passed cleared, if_pos new]
      exact List.mem_cons_self
  · refine ⟨copies, ?_, ?_⟩
    · simp only [World.reach, if_neg accepted]
      exact single.atMost
    · simp only [World.reach, if_neg accepted]
      intro some_before
      obtain ⟨earlier, mem, same⟩ := single.passed some_before
      exact ⟨earlier, mem_step_passed arrival mem, same⟩

theorem OneCopy.reach (single : OneCopy world) (there : index < world.flight.length) :
    OneCopy (world.reach inbox index post arrival) := by
  refine ⟨single.quiet, ?_⟩
  have fewer := List.length_eraseIdx_of_lt there
  have atMost := single.atMost
  simp only [World.reach]
  split <;> omega

section
variable {world : World} {answer : Except String Nat} {phase : Phase}

theorem answer_of_quiet (next : call.advance world.phase answer = phase)
    (quiet : call.posts phase = none) :
    world.answer call answer = { world with phase := phase } := by
  unfold World.answer
  simp only [next, quiet]

theorem answer_of_posts
    (next : call.advance world.phase answer = phase) (posts : call.posts phase = some signed) :
    world.answer call answer =
      { world with
        phase := phase
        post := world.post + 1
        flight := (world.post + 1, signed) :: world.flight } := by
  unfold World.answer
  simp only [next, posts]

theorem Delivering.ended (delivering : Delivering boot call world) :
    Delivering boot call { world with phase := .done result } := by
  refine ⟨delivering.watched, delivering.single.imp ?_ ?_⟩
  · intro single
    exact ⟨single.copies, single.atMost, single.passed⟩
  · intro single
    refine ⟨?_, single.atMost⟩
    intro attempt h
    cases h

theorem Delivering.answered (delivering : Delivering boot call world)
    (safe : SafeAnswer world answer) : Delivering boot call (world.answer call answer) := by
  cases hphase : world.phase with
  | done result =>
    have next : call.advance world.phase answer = .done result := by rw [hphase, Call.advance]
    rw [answer_of_quiet next rfl]
    exact delivering.ended
  | flipped secondary =>
    obtain ⟨result, ended⟩ := afterSecondary_done call (outcomeOf answer)
    have next : call.advance world.phase answer = .done result := by
      rw [hphase, Call.advance, ended]
    rw [answer_of_quiet next rfl]
    exact delivering.ended
  | posting attempt =>
    have single : OneFormat call world := by
      rcases delivering.single with single | single
      · exact single
      · exact absurd hphase (single.quiet attempt)
    have next : call.advance world.phase answer = call.afterPrimary attempt (outcomeOf answer) := by
      rw [hphase, Call.advance]
    cases hnext : call.afterPrimary attempt (outcomeOf answer) with
    | done result =>
      rw [answer_of_quiet (next.trans hnext) rfl]
      exact delivering.ended
    | posting again =>
      rw [answer_of_posts (next.trans hnext) rfl]
      refine ⟨delivering.watched, .inl ⟨?_, single.atMost, single.passed⟩⟩
      intro copy mem
      rcases List.mem_cons.mp mem with rfl | mem
      · rfl
      · exact single.copies copy mem
    | flipped secondary =>
      unfold SafeAnswer at safe
      rw [hphase] at safe
      obtain ⟨unsent, landed⟩ := safe (outcomeOf_unauthorized (afterPrimary_flipped hnext))
      rw [answer_of_posts (next.trans hnext) rfl]
      refine ⟨delivering.watched, .inr ⟨?_, ?_⟩⟩
      · intro again h
        cases h
      · simp [unsent, landed]

end

theorem Delivering.step
    (delivering : Delivering boot call world) (undoubled : Undoubled inbox call boot world event) :
    Delivering boot call (networkStep inbox call world event) := by
  cases event with
  | reach index elapsed around =>
    unfold Undoubled at undoubled
    unfold networkStep
    dsimp only at undoubled ⊢
    split
    · rename_i copy found
      rw [found] at undoubled
      have there := (List.getElem?_eq_some_iff.mp found).1
      refine ⟨delivering.watched.step undoubled, delivering.single.imp ?_ ?_⟩
      · intro single
        refine single.reach delivering.watched undoubled ?_
        rw [← single.copies copy (List.mem_of_getElem? found)]
        rfl
      · intro single
        exact single.reach there
    · exact delivering
  | other arrival =>
    refine ⟨delivering.watched.step undoubled, delivering.single.imp ?_ ?_⟩
    · intro single
      refine ⟨single.copies, single.atMost, ?_⟩
      intro some_before
      obtain ⟨earlier, mem, same⟩ := single.passed some_before
      exact ⟨earlier, mem_step_passed arrival mem, same⟩
    · intro single
      exact ⟨single.quiet, single.atMost⟩
  | respond =>
    unfold Undoubled at undoubled
    unfold networkStep
    dsimp only at undoubled ⊢
    split
    · rename_i status found
      rw [found] at undoubled
      exact delivering.answered undoubled
    · exact delivering
  | interrupt answer => exact delivering.answered undoubled
  | drop index =>
    refine ⟨delivering.watched, delivering.single.imp ?_ ?_⟩
    · intro single
      refine ⟨?_, single.atMost, single.passed⟩
      intro copy mem
      exact single.copies copy (List.mem_of_mem_eraseIdx mem)
    · intro single
      have atMost := single.atMost
      have fewer := List.length_eraseIdx_le world.flight index
      exact ⟨single.quiet, by simp only [networkStep]; omega⟩

/-- While the replay window remembers the copies and a 401 only answers a call of which no copy
was enqueued or is under way, a call is enqueued at most once. -/
theorem enqueued_once_of_undoubled (inbox : InboxConfig) (boot window cap : Nat) (call : Call)
    (events : List NetworkEvent)
    (undoubled : Meets (networkStep inbox call) (Undoubled inbox call boot)
      (.start (.initial window cap) call) events) :
    (run (networkStep inbox call) (.start (.initial window cap) call) events).enqueued ≤ 1 := by
  have keeps : ∀ world event, Delivering boot call world →
      Undoubled inbox call boot world event →
      Delivering boot call (networkStep inbox call world event) := by
    intro world event
    exact Delivering.step
  have starts : Delivering boot call (.start (.initial window cap) call) := by
    refine ⟨.initial boot window cap, .inl ⟨?_, Nat.zero_le _, ?_⟩⟩
    · intro copy mem
      rw [List.mem_singleton.mp mem]
    · intro some_before
      exact absurd rfl some_before
  have delivering := run_invariant (Delivering boot call) keeps events _ starts undoubled
  rcases delivering.single with single | single
  · exact single.atMost
  · have atMost := single.atMost
    omega

def exampleDestination : Destination :=
  ⟨⟨"https://relay.example/inbox", "https", some "relay.example", none, "/inbox"⟩, none⟩

def exampleActor : Url :=
  ⟨"https://remote.example/users/eve", "https", some "remote.example", none, "/users/eve"⟩

def exampleCall : Call where
  rsa := exampleRsa
  signingKey := utf8 "k"
  keyId := "u#k"
  body := exampleBody
  inboxUrl := exampleDestination
  now := 784111777 * second
  primary := .cavage ⟨"Sun, 06 Nov 1994 08:49:37 GMT", "SHA-256=aGk=",
    "keyId=\"u#k\",algorithm=\"rsa-sha256\"," ++
      "headers=\"(request-target) host date digest\",signature=\"aw==\""⟩

def exampleReach (after : Nat) : NetworkEvent :=
  .reach 0 second (exampleSurroundings ((784111777 + after) * second))

theorem lost_copies_enqueued_once :
    let events := [exampleReach 1, .interrupt (.error "timed out"), exampleReach 2,
      .interrupt (.error "timed out")]
    Meets (networkStep exampleInbox exampleCall)
        (Undoubled exampleInbox exampleCall (784111777 * second)) (.start .fresh exampleCall)
        events ∧
      (run (networkStep exampleInbox exampleCall) (.start .fresh exampleCall)
        events).enqueued ≤ 1 := by
  intro events
  have undoubled : Meets (networkStep exampleInbox exampleCall)
      (Undoubled exampleInbox exampleCall (784111777 * second)) (.start .fresh exampleCall)
      events := by
    decide +kernel
  exact ⟨undoubled, enqueued_once_of_undoubled exampleInbox (784111777 * second)
    replayWindowLength replayCap exampleCall events undoubled⟩

/-- The response to the first post is lost; the second post is answered as a replay, and the copy
in the other format is enqueued as well. -/
theorem lost_response_enqueues_twice :
    ((startDelivery exampleRsa [] [] .cavage ⟨"u#k", "k"⟩ exampleBody exampleDestination
        exampleActor (784111777 * second)).toOption.map fun started => started.1.primary) =
      some exampleCall.primary ∧
    (run (networkStep exampleInbox exampleCall) (.start .fresh exampleCall)
      [exampleReach 1, .interrupt (.error "timed out"), exampleReach 2, .respond,
        exampleReach 3]).enqueued = 2 := by
  decide +kernel

end Fetchit.Relay.Inbox
