import Fetchit.Lib.History
import Fetchit.Lib.Lru
import Fetchit.Lib.Run
import Fetchit.Transport.Types
import Fetchit.Chat.Inbound

/-! The inbound path of the relay transports. The pump of each relay slot maps a delivery to an
inbound envelope, the fan-in of the slot drops duplicates at a gate that all slots share, and one
dispatcher takes what is left. The history records every verdict on an envelope and every
confirmation of a stored copy. -/
namespace Fetchit.Chat
open Lib Proto.Identity Proto.Envelope

/-- First-seen-wins gate keyed on sender and nonce. -/
structure NonceDedup where
  seen : Lru (String × Nonce) Nat
  ttl : Nat

namespace NonceDedup

def new (capacity ttl : Nat) : NonceDedup := ⟨.empty capacity, ttl⟩

/-- `true` lets the observation pass; a stale entry counts as unseen and is refreshed. -/
def observe (dedup : NonceDedup) (key : String × Nonce) (now : Nat) : Bool × NonceDedup :=
  let looked := dedup.seen.get key
  match looked.1 with
  | some seenAt =>
    if now - seenAt < dedup.ttl then (false, { dedup with seen := looked.2 })
    else (true, { dedup with seen := looked.2.put key now })
  | none => (true, { dedup with seen := looked.2.put key now })

variable {dedup : NonceDedup} {key : String × Nonce} {now : Nat}

theorem observe_eq_false (h : (dedup.observe key now).1 = false) :
    ∃ seenAt, (key, seenAt) ∈ dedup.seen.entries := by
  unfold observe at h
  dsimp only at h
  split at h
  · rename_i seenAt found
    exact ⟨seenAt, Lru.get_eq_some found⟩
  · cases h

theorem mem_observe (h : entry ∈ (dedup.observe key now).2.seen.entries) :
    entry ∈ dedup.seen.entries ∨ (dedup.observe key now).1 = true ∧ entry.1 = key := by
  have refreshed : entry ∈ ((dedup.seen.get key).2.put key now).entries →
      entry ∈ dedup.seen.entries ∨ entry.1 = key := by
    intro mem
    rcases Lru.mem_put mem with rfl | kept
    · exact .inr rfl
    · exact .inl (Lru.mem_get kept)
  unfold observe at h ⊢
  dsimp only at h ⊢
  split at h
  · rename_i seenAt found
    by_cases recent : now - seenAt < dedup.ttl
    · rw [if_pos recent] at h
      exact .inl (Lru.mem_get h)
    · rw [if_neg recent] at h
      rw [if_neg recent]
      exact (refreshed h).imp id fun same => ⟨rfl, same⟩
  · exact (refreshed h).imp id fun same => ⟨rfl, same⟩

end NonceDedup

def dedupCapacity : Nat := 10000

def dedupTtlMs : Nat := 300 * 1000

def relayTransportName : String := "relay"

/-- A kind without a route is dropped for good, or held for a later version. -/
inductive Route where
  | forward (inbound : InboundEnvelope)
  | terminal
  | held

def mapInboundDelivery (envelope : TransitEnvelope) (ack : Option DeliveryAck) : Route :=
  let forward := fun kind => Route.forward ⟨kind, hexId envelope.senderAgentId,
    envelope.ciphertext, envelope.timestampMs, relayTransportName, some envelope, ack⟩
  match envelope.kind with
  | .dm | .x0xdGroupMetadataEvent | .publicPost | .pairRecordPush => forward .dm
  | .groupChat | .privateGroupChat | .deliveryReceipt =>
    forward (.group ((envelope.groupId.map hexId).getD ""))
  | .adminEvent | .reserved7 => .terminal
  | .unknown _ => .held

inductive Verdict where
  | settled
  | held
  deriving DecidableEq

structure ChatState where
  agentIdHex : String
  registry : Registry

/-- What one dispatch meets outside the conversation registry: the local daemon, the record
store, the private-group decryption and the denylist. -/
structure DispatchWorld where
  env : DispatchEnv
  bridge : TransitEnvelope → Except ChatError Unit
  pairRecordPush : TransitEnvelope → Except ChatError Unit
  privateGroup : Registry → TransitEnvelope → String → Except ChatError Unit × Registry
  denylist : Option (String → Bool)

def shouldDropInboundFromDenylisted (denylist : Option (String → Bool))
    (transit : TransitEnvelope) : Bool :=
  match denylist with
  | none => false
  | some isBlocked => isBlocked (hexId transit.senderAgentId)

def Verdict.ofResult (result : Except ChatError Unit) : Verdict :=
  match result with
  | .ok _ => .settled
  | .error _ => .held

def dispatchPrivateGroup (world : DispatchWorld) (chat : Option ChatState)
    (transit : TransitEnvelope) : Verdict × Option ChatState :=
  let groupIdHex := (transit.groupId.map hexId).getD ""
  if groupIdHex.isEmpty then (.settled, chat)
  else
    match chat with
    | none => (.held, none)
    | some chat =>
      match world.privateGroup chat.registry transit groupIdHex with
      | (.ok _, reg) => (.settled, some { chat with registry := reg })
      | (.error _, reg) =>
        let reg := reg.noteWedgeInbound groupIdHex (some transit.epoch) world.env.wedgeClock
          world.env.wedgeFault
        (.held, some { chat with registry := reg })

def dispatchConversation (crypto : ChatCrypto) (world : DispatchWorld) (chat : Option ChatState)
    (transit : TransitEnvelope) : Verdict × Option ChatState :=
  match chat with
  | none => (.held, none)
  | some chat =>
    match dispatchInbound crypto world.env chat.registry transit with
    | (.ok dispatch, reg) =>
      (if confirmsDelivery dispatch then .settled else .held,
        some { chat with registry := reg })
    | (.error _, reg) => (.held, some { chat with registry := reg })

def defaultDispatchOne (crypto : ChatCrypto) (world : DispatchWorld) (chat : Option ChatState)
    (inbound : InboundEnvelope) : Verdict × Option ChatState :=
  match inbound.transit with
  | none => (.settled, chat)
  | some transit =>
    if chat.any (·.agentIdHex == hexId transit.senderAgentId) then (.settled, chat)
    else if transit.kind = .x0xdGroupMetadataEvent then
      (.ofResult (world.bridge transit), chat)
    else if transit.kind = .publicPost then (.settled, chat)
    else if shouldDropInboundFromDenylisted world.denylist transit then (.settled, chat)
    else if transit.kind = .pairRecordPush then
      (.ofResult (world.pairRecordPush transit), chat)
    else if transit.kind = .privateGroupChat then dispatchPrivateGroup world chat transit
    else dispatchConversation crypto world chat transit

/-- A verdict on a delivered copy of an envelope, or the confirmation of a stored copy. -/
inductive Note where
  | judged (envelope : Option TransitEnvelope) (verdict : Verdict)
  | confirmed (ack : DeliveryAck) (envelope : Option TransitEnvelope)
  deriving DecidableEq

/-- The token of a delivery without a stored copy does nothing. -/
def confirm (ack : Option DeliveryAck) (envelope : Option TransitEnvelope) (history : List Note) :
    List Note :=
  match ack with
  | some ack => .confirmed ack envelope :: history
  | none => history

def judge (ack : Option DeliveryAck) (envelope : Option TransitEnvelope) (verdict : Verdict)
    (history : List Note) : List Note :=
  match verdict with
  | .settled => confirm ack envelope (.judged envelope .settled :: history)
  | .held => .judged envelope .held :: history

/-- The channels, the gate and the dispatcher's state. `admitted` lists what the gate let
through since the process started. -/
structure Pipeline where
  chat : Option ChatState
  slots : Nat → List InboundEnvelope
  dedup : NonceDedup
  inbound : List InboundEnvelope
  admitted : List TransitEnvelope
  history : List Note

namespace Pipeline

def boot (chat : Option ChatState) : Pipeline :=
  ⟨chat, fun _ => [], .new dedupCapacity dedupTtlMs, [], [], []⟩

def pump (pipeline : Pipeline) (slot transitSeq : Nat) (envelope : TransitEnvelope) : Pipeline :=
  let ack : Option DeliveryAck := if transitSeq > 0 then some ⟨slot, transitSeq⟩ else none
  match mapInboundDelivery envelope ack with
  | .forward inbound =>
    let waiting := pipeline.slots slot ++ [inbound]
    { pipeline with slots := Function.update pipeline.slots slot waiting }
  | .terminal =>
    { pipeline with history := judge ack (some envelope) .settled pipeline.history }
  | .held => { pipeline with history := judge ack (some envelope) .held pipeline.history }

/-- One envelope of a slot at the gate. A duplicate is confirmed and dropped. -/
def gate (pipeline : Pipeline) (inbound : InboundEnvelope) (now : Nat) : Pipeline :=
  match inbound.transit with
  | none => { pipeline with inbound := pipeline.inbound ++ [inbound] }
  | some transit =>
    match parseNonce transit.nonce with
    | .error _ =>
      let history := judge inbound.ack (some transit) .settled pipeline.history
      { pipeline with history := history }
    | .ok nonce =>
      match pipeline.dedup.observe (inbound.sender, nonce) now with
      | (true, dedup) =>
        { pipeline with
          dedup := dedup
          inbound := pipeline.inbound ++ [inbound]
          admitted := transit :: pipeline.admitted }
      | (false, dedup) =>
        { pipeline with
          dedup := dedup
          history := confirm inbound.ack (some transit) pipeline.history }

def fanIn (pipeline : Pipeline) (slot now : Nat) : Pipeline :=
  match pipeline.slots slot with
  | [] => pipeline
  | inbound :: rest =>
    gate { pipeline with slots := Function.update pipeline.slots slot rest } inbound now

def dispatch (crypto : ChatCrypto) (pipeline : Pipeline) (world : DispatchWorld) : Pipeline :=
  match pipeline.inbound with
  | [] => pipeline
  | inbound :: rest =>
    let outcome := defaultDispatchOne crypto world pipeline.chat inbound
    { pipeline with
      chat := outcome.2
      inbound := rest
      history := judge inbound.ack inbound.transit outcome.1 pipeline.history }

def teardown (pipeline : Pipeline) (slot : Nat) : Pipeline :=
  { pipeline with slots := Function.update pipeline.slots slot [] }

def restart (pipeline : Pipeline) : Pipeline :=
  let reopened := pipeline.chat.map fun chat =>
    let reg := chat.registry
    ⟨chat.agentIdHex, .new reg.conversations reg.contacts reg.contactsDir⟩
  { boot reopened with history := pipeline.history }

inductive Event where
  | deliver (slot transitSeq : Nat) (envelope : TransitEnvelope)
  | fanIn (slot now : Nat)
  | dispatch (world : DispatchWorld)
  | teardown (slot : Nat)
  | restart

def step (crypto : ChatCrypto) (pipeline : Pipeline) : Event → Pipeline
  | .deliver slot transitSeq envelope => pipeline.pump slot transitSeq envelope
  | .fanIn slot now => pipeline.fanIn slot now
  | .dispatch world => pipeline.dispatch crypto world
  | .teardown slot => pipeline.teardown slot
  | .restart => pipeline.restart

end Pipeline

end Fetchit.Chat
