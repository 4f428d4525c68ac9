import Fetchit.Transport.FanIn

/-! A stored copy is confirmed only after a verdict that settles its envelope. The dispatcher
and the terminal drops keep this order by themselves; the gate keeps it when the copy that it
let through has been dispatched and was not held. -/
namespace Fetchit.Chat
open Lib.History Lib.Run Proto.Identity Proto.Envelope

def Settles (note : Note) (earlier : List Note) : Prop :=
  ∀ ack envelope, note = .confirmed ack envelope → .judged envelope .settled ∈ earlier

def lastVerdict (history : List Note) (envelope : TransitEnvelope) : Option Verdict :=
  history.findSome? fun
    | .judged judged verdict => if judged = some envelope then some verdict else none
    | .confirmed _ _ => none

variable {history : List Note} {envelope : TransitEnvelope} {verdict : Verdict}

theorem judged_of_lastVerdict (h : lastVerdict history envelope = some verdict) :
    .judged (some envelope) verdict ∈ history := by
  obtain ⟨note, mem, found⟩ := List.exists_of_findSome?_eq_some h
  cases note with
  | judged judged verdict' =>
    dsimp only at found
    split at found
    · rename_i same
      cases found
      rw [← same]
      exact mem
    · cases found
  | confirmed ack envelope' => cases found

theorem lastVerdict_isSome (h : .judged (some envelope) verdict ∈ history) :
    (lastVerdict history envelope).isSome := by
  unfold lastVerdict
  rw [List.findSome?_isSome_iff]
  exact ⟨_, h, by simp⟩

theorem settled_of_not_held (judged : .judged (some envelope) verdict ∈ history)
    (kept : lastVerdict history envelope ≠ some .held) :
    .judged (some envelope) .settled ∈ history := by
  obtain ⟨last, hlast⟩ := Option.isSome_iff_exists.mp (lastVerdict_isSome judged)
  cases last with
  | settled => exact judged_of_lastVerdict hlast
  | held => exact absurd hlast kept

theorem justified_judge (h : Justified Settles history) (ack : Option DeliveryAck)
    (envelope : Option TransitEnvelope) (verdict : Verdict) :
    Justified Settles (judge ack envelope verdict history) := by
  have judged : ∀ verdict, Justified Settles (.judged envelope verdict :: history) := by
    intro verdict
    refine justified_cons.mpr ⟨?_, h⟩
    intro _ _ same
    cases same
  cases verdict with
  | held => exact judged .held
  | settled =>
    cases ack with
    | none => exact judged .settled
    | some ack =>
      refine justified_cons.mpr ⟨?_, judged .settled⟩
      intro _ _ same
      cases same
      exact List.mem_cons_self

theorem justified_confirm (h : Justified Settles history) {ack : Option DeliveryAck}
    {envelope : Option TransitEnvelope}
    (settled : ack ≠ none → .judged envelope .settled ∈ history) :
    Justified Settles (confirm ack envelope history) := by
  cases ack with
  | none => exact h
  | some ack =>
    refine justified_cons.mpr ⟨?_, h⟩
    intro _ _ same
    cases same
    exact settled (by simp)

section
variable (h : note ∈ history) (ack : Option DeliveryAck) (envelope : Option TransitEnvelope)
include h

theorem mem_confirm :
    note ∈ confirm ack envelope history := by
  cases ack with
  | none => exact h
  | some ack => exact List.mem_cons_of_mem _ h

theorem mem_judge (verdict : Verdict) :
    note ∈ judge ack envelope verdict history := by
  cases verdict with
  | held => exact List.mem_cons_of_mem _ h
  | settled => exact mem_confirm (List.mem_cons_of_mem _ h) ack envelope

end

theorem judged_judge (ack : Option DeliveryAck) (envelope : Option TransitEnvelope)
    (verdict : Verdict) (history : List Note) :
    .judged envelope verdict ∈ judge ack envelope verdict history := by
  cases verdict with
  | held => exact List.mem_cons_self
  | settled => exact mem_confirm List.mem_cons_self ack envelope

def dedupKey (transit : TransitEnvelope) : Option (String × Nonce) :=
  match parseNonce transit.nonce with
  | .ok nonce => some (hexId transit.senderAgentId, nonce)
  | .error _ => none

def Routed (inbound : InboundEnvelope) : Prop :=
  ∃ transit, inbound.transit = some transit ∧ inbound.sender = hexId transit.senderAgentId

theorem mapInboundDelivery_routed {ack : Option DeliveryAck} {inbound : InboundEnvelope}
    (h : mapInboundDelivery envelope ack = .forward inbound) :
    Routed inbound := by
  unfold mapInboundDelivery at h
  split at h <;> cases h <;> exact ⟨envelope, rfl, rfl⟩

namespace Pipeline

/-- What holds in every run: the gate knows only envelopes it let through, and each of those
waits for the dispatcher or has a verdict. -/
structure Sound (pipeline : Pipeline) : Prop where
  routed : ∀ slot, ∀ inbound ∈ pipeline.slots slot, Routed inbound
  known : ∀ entry ∈ pipeline.dedup.seen.entries,
    ∃ transit ∈ pipeline.admitted, dedupKey transit = some entry.1
  pending : ∀ transit ∈ pipeline.admitted,
    (∃ inbound ∈ pipeline.inbound, inbound.transit = some transit) ∨
      ∃ verdict, .judged (some transit) verdict ∈ pipeline.history
  ordered : Justified Settles pipeline.history

/-- The copy behind a duplicate is this envelope, has left the queue and was not held. -/
structure FirstCopySettled (pipeline : Pipeline) (transit : TransitEnvelope) : Prop where
  unique : ∀ other ∈ pipeline.admitted, dedupKey other = dedupKey transit → other = transit
  dispatched : ∀ inbound ∈ pipeline.inbound, inbound.transit ≠ some transit
  kept : lastVerdict pipeline.history transit ≠ some .held

def Suppresses (pipeline : Pipeline) (inbound : InboundEnvelope) (transit : TransitEnvelope)
    (now : Nat) : Prop :=
  inbound.transit = some transit ∧ ∃ nonce, parseNonce transit.nonce = .ok nonce ∧
    (pipeline.dedup.observe (inbound.sender, nonce) now).1 = false

/-- A duplicate with a stored copy meets a first copy that is settled. -/
def DuplicatesSettled (pipeline : Pipeline) : Event → Prop
  | .fanIn slot now =>
    ∀ inbound ∈ (pipeline.slots slot).head?, inbound.ack ≠ none → ∀ transit,
      pipeline.Suppresses inbound transit now → pipeline.FirstCopySettled transit
  | _ => True

theorem boot_sound (chat : Option ChatState) : (boot chat).Sound where
  routed := by
    intro slot inbound mem
    cases mem
  known := by
    intro entry mem
    cases mem
  pending := by
    intro transit mem
    cases mem
  ordered := justified_nil

namespace Sound

variable {pipeline : Pipeline} (sound : pipeline.Sound)
include sound

theorem record {history : List Note} (grows : ∀ note ∈ pipeline.history, note ∈ history)
    (ordered : Justified Settles history) : Sound { pipeline with history := history } where
  routed := sound.routed
  known := sound.known
  pending := by
    intro transit mem
    rcases sound.pending transit mem with waiting | ⟨verdict, judged⟩
    · exact .inl waiting
    · exact .inr ⟨verdict, grows _ judged⟩
  ordered := ordered

theorem recordVerdict (ack : Option DeliveryAck) (envelope : Option TransitEnvelope)
    (verdict : Verdict) :
    Sound { pipeline with history := judge ack envelope verdict pipeline.history } := by
  apply sound.record
  · intro note mem
    exact mem_judge mem ack envelope verdict
  · exact justified_judge sound.ordered ack envelope verdict

theorem reslot (slot : Nat) (routed : ∀ inbound ∈ waiting, Routed inbound) :
    Sound { pipeline with slots := Function.update pipeline.slots slot waiting } where
  routed := by
    intro other inbound mem
    dsimp only at mem
    by_cases same : other = slot
    · subst same
      rw [Function.update_self] at mem
      exact routed inbound mem
    · rw [Function.update_of_ne same] at mem
      exact sound.routed other inbound mem
  known := sound.known
  pending := sound.pending
  ordered := sound.ordered

theorem pump (slot transitSeq : Nat) (envelope : TransitEnvelope) :
    (pipeline.pump slot transitSeq envelope).Sound := by
  unfold Pipeline.pump
  dsimp only
  split
  · rename_i inbound forwarded
    apply sound.reslot slot
    intro other mem
    rcases List.mem_append.mp mem with old | new
    · exact sound.routed slot other old
    · rw [List.mem_singleton.mp new]
      exact mapInboundDelivery_routed forwarded
  · exact sound.recordVerdict _ _ _
  · exact sound.recordVerdict _ _ _

variable {inbound : InboundEnvelope} {now : Nat}

theorem settled_of_suppressed (routed : Routed inbound)
    (suppressed : pipeline.Suppresses inbound transit now)
    (first : pipeline.FirstCopySettled transit) :
    .judged (some transit) .settled ∈ pipeline.history := by
  obtain ⟨carried, nonce, parsed, refused⟩ := suppressed
  obtain ⟨transit', carried', sender⟩ := routed
  rw [carried] at carried'
  cases carried'
  obtain ⟨seenAt, entry⟩ := NonceDedup.observe_eq_false refused
  obtain ⟨other, admitted, key⟩ := sound.known _ entry
  have same : other = transit := by
    apply first.unique other admitted
    rw [key, dedupKey, parsed, sender]
  subst same
  rcases sound.pending other admitted with ⟨waiting, mem, carries⟩ | ⟨verdict, judged⟩
  · exact absurd carries (first.dispatched waiting mem)
  · exact settled_of_not_held judged first.kept

theorem pass (now : Nat)
    (carried : inbound.transit = some transit) (parsed : parseNonce transit.nonce = .ok nonce)
    (sender : inbound.sender = hexId transit.senderAgentId) :
    Sound { pipeline with
      dedup := (pipeline.dedup.observe (inbound.sender, nonce) now).2
      inbound := pipeline.inbound ++ [inbound]
      admitted := transit :: pipeline.admitted } where
  routed := sound.routed
  known := by
    intro entry mem
    rcases NonceDedup.mem_observe mem with old | ⟨_, same⟩
    · obtain ⟨other, admitted, key⟩ := sound.known entry old
      exact ⟨other, List.mem_cons_of_mem _ admitted, key⟩
    · refine ⟨transit, List.mem_cons_self, ?_⟩
      rw [same, dedupKey, parsed, sender]
  pending := by
    intro other mem
    rcases List.mem_cons.mp mem with rfl | old
    · exact .inl ⟨inbound, by simp, carried⟩
    · rcases sound.pending other old with ⟨waiting, queued, carries⟩ | judged
      · exact .inl ⟨waiting, List.mem_append_left _ queued, carries⟩
      · exact .inr judged
  ordered := sound.ordered

theorem refuse (transit : TransitEnvelope)
    (refused : (pipeline.dedup.observe (inbound.sender, nonce) now).1 = false)
    (settled : inbound.ack ≠ none → .judged (some transit) .settled ∈ pipeline.history) :
    Sound { pipeline with
      dedup := (pipeline.dedup.observe (inbound.sender, nonce) now).2
      history := confirm inbound.ack (some transit) pipeline.history } where
  routed := sound.routed
  known := by
    intro entry mem
    rcases NonceDedup.mem_observe mem with old | ⟨passed, _⟩
    · exact sound.known entry old
    · rw [refused] at passed
      cases passed
  pending := by
    intro other mem
    rcases sound.pending other mem with waiting | ⟨verdict, judged⟩
    · exact .inl waiting
    · exact .inr ⟨verdict, mem_confirm judged _ _⟩
  ordered := justified_confirm sound.ordered settled

theorem gate (routed : Routed inbound)
    (first : inbound.ack ≠ none → ∀ transit, pipeline.Suppresses inbound transit now →
      pipeline.FirstCopySettled transit) : (pipeline.gate inbound now).Sound := by
  obtain ⟨transit, carried, sender⟩ := routed
  unfold Pipeline.gate
  rw [carried]
  dsimp only
  cases parsed : parseNonce transit.nonce with
  | error error => exact sound.recordVerdict _ _ _
  | ok nonce =>
    dsimp only
    split
    · rename_i dedup observed
      have admitted := sound.pass now carried parsed sender
      rw [observed] at admitted
      exact admitted
    · rename_i dedup observed
      have refused : (pipeline.dedup.observe (inbound.sender, nonce) now).1 = false := by
        rw [observed]
      have suppressed : pipeline.Suppresses inbound transit now := ⟨carried, nonce, parsed, refused⟩
      have held := sound.refuse transit refused fun stored =>
        sound.settled_of_suppressed ⟨transit, carried, sender⟩ suppressed
          (first stored transit suppressed)
      rw [observed] at held
      exact held

theorem fanIn (first : pipeline.DuplicatesSettled (.fanIn slot now)) :
    (pipeline.fanIn slot now).Sound := by
  unfold Pipeline.fanIn
  cases waiting : pipeline.slots slot with
  | nil => exact sound
  | cons inbound rest =>
    have mem : ∀ other ∈ inbound :: rest, Routed other := by
      rw [← waiting]
      exact sound.routed slot
    have popped := sound.reslot slot fun other (later : other ∈ rest) =>
      mem other (List.mem_cons_of_mem _ later)
    apply popped.gate (mem inbound List.mem_cons_self)
    intro stored transit suppressed
    have settled := first inbound (by simp [waiting]) stored transit suppressed
    exact ⟨settled.unique, settled.dispatched, settled.kept⟩

theorem dispatch (crypto : ChatCrypto) (world : DispatchWorld) :
    (pipeline.dispatch crypto world).Sound := by
  unfold Pipeline.dispatch
  cases queue : pipeline.inbound with
  | nil => exact sound
  | cons inbound rest =>
    refine ⟨sound.routed, sound.known, ?_, justified_judge sound.ordered _ _ _⟩
    intro transit mem
    rcases sound.pending transit mem with ⟨waiting, queued, carries⟩ | ⟨verdict, judged⟩
    · rw [queue] at queued
      rcases List.mem_cons.mp queued with rfl | later
      · right
        rw [← carries]
        exact ⟨_, judged_judge _ _ _ _⟩
      · exact .inl ⟨waiting, later, carries⟩
    · exact .inr ⟨verdict, mem_judge judged _ _ _⟩

theorem restart : pipeline.restart.Sound := by
  have booted := boot_sound pipeline.restart.chat
  refine ⟨booted.routed, booted.known, ?_, sound.ordered⟩
  intro transit mem
  cases mem

end Sound

theorem step_sound (crypto : ChatCrypto) (pipeline : Pipeline) (event : Event)
    (sound : pipeline.Sound) (settled : pipeline.DuplicatesSettled event) :
    (pipeline.step crypto event).Sound := by
  cases event with
  | deliver slot transitSeq envelope => exact sound.pump slot transitSeq envelope
  | fanIn slot now => exact sound.fanIn settled
  | dispatch world => exact sound.dispatch crypto world
  | teardown slot =>
    apply sound.reslot
    intro inbound mem
    cases mem
  | restart => exact sound.restart

theorem confirmed_after_settled (crypto : ChatCrypto) (chat : Option ChatState)
    (events : List Event) (settled : Meets (step crypto) DuplicatesSettled (boot chat) events) :
    ∀ later ack envelope earlier,
      (run (step crypto) (boot chat) events).history = later ++ .confirmed ack envelope :: earlier →
      .judged envelope .settled ∈ earlier := by
  have sound := run_invariant Sound (step_sound crypto) events (boot chat) (boot_sound chat) settled
  intro later ack envelope earlier split
  exact sound.ordered later _ earlier split ack envelope rfl

def quietWorld : DispatchWorld :=
  ⟨quietEnv, fun _ => .error (.io ""), fun _ => .error (.io ""), fun reg _ _ => (.error (.io ""), reg),
    none⟩

def aliceChat : ChatState :=
  ⟨hexId (deriveAgentId (idealCrypto []) aliceKey), emptyRegistry⟩

def bobFrame (kind : EnvelopeKind) : TransitEnvelope := idealEnvelope kind bobGroup 5 bobKey []

def firstCopy (kind : EnvelopeKind) : List Event :=
  [.deliver 0 1 (bobFrame kind), .fanIn 0 0, .dispatch quietWorld, .deliver 1 7 (bobFrame kind)]

def dmCrypto : ChatCrypto := idealChat [] (idealPayload "" 0 bobKey []) emptyMessage emptyReceipt

def afterFirst (kind : EnvelopeKind) : Pipeline :=
  run (step dmCrypto) (boot (some aliceChat)) (firstCopy kind)

theorem confirmed_after_settled_post :
    Meets (step dmCrypto) DuplicatesSettled (boot (some aliceChat))
        (firstCopy .publicPost ++ [.fanIn 1 5]) ∧
      ∀ later ack envelope earlier,
        (run (step dmCrypto) (boot (some aliceChat))
          (firstCopy .publicPost ++ [.fanIn 1 5])).history =
            later ++ .confirmed ack envelope :: earlier →
        .judged envelope .settled ∈ earlier := by
  have history : (afterFirst .publicPost).history =
      [.confirmed ⟨0, 1⟩ (some (bobFrame .publicPost)),
        .judged (some (bobFrame .publicPost)) .settled] := by
    decide +kernel
  have first : (afterFirst .publicPost).FirstCopySettled (bobFrame .publicPost) := by
    refine ⟨?_, ?_, ?_⟩
    · intro other mem _
      exact List.mem_singleton.mp mem
    · intro inbound mem
      cases mem
    · rw [history]
      simp [lastVerdict]
  have settled : Meets (step dmCrypto) DuplicatesSettled (boot (some aliceChat))
      (firstCopy .publicPost ++ [.fanIn 1 5]) := by
    refine (meets_append _ _ _).mpr ⟨⟨trivial, ?_, trivial, trivial, trivial⟩, ?_, trivial⟩
    · intro inbound mem _ transit suppressed
      cases mem
      obtain ⟨_, nonce, _, refused⟩ := suppressed
      cases refused
    · intro inbound mem _ transit suppressed
      cases mem
      obtain ⟨carried, _⟩ := suppressed
      cases carried
      exact first
  exact ⟨settled, confirmed_after_settled dmCrypto (some aliceChat) _ settled⟩

/-- Bob's message is held because Bob has no card, and its redelivery is confirmed. -/
theorem held_copy_confirmed :
    (run (step dmCrypto) (boot (some aliceChat)) (firstCopy .dm ++ [.fanIn 1 5])).history =
      [.confirmed ⟨1, 7⟩ (some (bobFrame .dm)), .judged (some (bobFrame .dm)) .held] := by
  decide +kernel

end Pipeline

end Fetchit.Chat
