import Fetchit.Lib.History
import Fetchit.Lib.Run
import Fetchit.Relay.Transit

/-! One agent's client and one relay. The client keeps bare ids of the deliveries it received,
across its own reconnects and across restarts of the relay; the relay deletes what an
acknowledgement lists. Frames may be delayed, lost or overtake each other. -/
namespace Fetchit.Relay
open Proto.Identity Proto.Envelope

structure Deliver where
  envelope : TransitEnvelope
  transitSeq : Nat
  deliveredAtMs : Nat
  deriving DecidableEq

/-- A delivery on its way, with the lifetime of the store that it was pushed from. -/
structure Frame where
  era : Nat
  deliver : Deliver
  deriving DecidableEq

def replayBatchMax : Nat := 256

def maxAckIdsPerFrame : Nat := 1024

/-- The agent id that marks bridged posts; nothing is delivered to it. -/
def fediverseBridgeSender : AgentId := Vector.replicate 32 0

inductive Note where
  | received (frame : Frame)
  | reclaimed (era : Nat) (entry : StoredEntry)

structure Session where
  store : TransitStore
  /-- The lifetime of the store's contents: a restart that loses them begins a new one. -/
  era : Nat
  /-- Deliveries that the relay has pushed and the client has not received. -/
  pushed : List Frame
  received : List Frame
  /-- The acknowledgements that wait for the client's supervisor. -/
  commands : List (List Nat)
  connected : Bool
  /-- The acknowledgements on their way to the relay process. -/
  acks : List (List Nat)
  history : List Note

namespace Session

def start (store : TransitStore) : Session := ⟨store, 0, [], [], [], false, [], []⟩

/-- The gates in front of a deposit: the envelope's size against the session's cap, the rate
limit, the authenticated sender, and a recipient that has moved away. -/
structure SendGate where
  encodedLen : Nat
  maxEnvelopeBytes : Nat
  allowed : Bool
  sender : AgentId
  departed : Bool

inductive SendReply where
  | ack
  | moved
  | envelopeTooLarge
  | perSenderRate
  | perRecipientCapacity
  | silent
  deriving DecidableEq

def handleSend (codec : Postcard) (agent : AgentId) (session : Session)
    (env : TransitStore.StoreEnv) (gate : SendGate) (accepts : Bool) (recipient : AgentId)
    (envelope : TransitEnvelope) : SendReply × Session :=
  if gate.encodedLen > gate.maxEnvelopeBytes then (.envelopeTooLarge, session)
  else if !gate.allowed then (.perSenderRate, session)
  else if envelope.senderAgentId ≠ gate.sender then (.silent, session)
  else if envelope.version ≠ 2 ∧ envelope.version ≠ 3 then (.silent, session)
  else if gate.departed then (.moved, session)
  else
    match session.store.enqueue codec env recipient envelope with
    | (.error _, store) => (.perRecipientCapacity, { session with store := store })
    | (.ok transitSeq, store) =>
      let frame : Frame := ⟨session.era, envelope, transitSeq, env.now⟩
      let live := accepts && recipient == agent && recipient != fediverseBridgeSender
      (.ack, { session with
        store := store
        pushed := if live then session.pushed ++ [frame] else session.pushed })

def connect (codec : Postcard) (agent : AgentId) (session : Session) (now room : Nat) : Session :=
  let replayed := ((session.store.readAll codec agent).take replayBatchMax).take room
  { session with
    connected := true
    pushed := session.pushed ++ replayed.map fun entry =>
      ⟨session.era, entry.envelope, entry.id, now⟩ }

def receive (session : Session) (index : Nat) : Session :=
  match session.pushed[index]? with
  | none => session
  | some frame =>
    { session with
      pushed := session.pushed.eraseIdx index
      received := session.received ++ [frame]
      history := .received frame :: session.history }

def ackTransit (session : Session) (indices : List Nat) : Session :=
  let ids := (indices.filterMap fun index =>
    session.received[index]?.map (·.deliver.transitSeq)).filter (· ≠ 0)
  if ids.isEmpty then session else { session with commands := session.commands ++ [ids] }

/-- The supervisor takes a command; without a connection an acknowledgement is dropped. -/
def supervise (session : Session) : Session :=
  match session.commands with
  | [] => session
  | ids :: rest =>
    { session with
      commands := rest
      acks := if session.connected then session.acks ++ [ids] else session.acks }

def removed (codec : Postcard) (agent : AgentId) (before after : TransitStore) :
    List StoredEntry :=
  (before.readAll codec agent).filter (· ∉ after.readAll codec agent)

def transitAck (codec : Postcard) (agent : AgentId) (session : Session)
    (env : TransitStore.StoreEnv) : Session :=
  match session.acks with
  | [] => session
  | ids :: rest =>
    let store := (session.store.delete env agent (ids.take maxAckIdsPerFrame)).2
    let gone := removed codec agent session.store store
    { session with
      store := store
      acks := rest
      history := gone.map (.reclaimed session.era) ++ session.history }

def restart (session : Session) : Session :=
  { session with
    store := session.store.restart
    era := if session.store.durable then session.era else session.era + 1
    connected := false
    acks := [] }

inductive Event where
  | send (env : TransitStore.StoreEnv) (gate : SendGate) (accepts : Bool) (recipient : AgentId)
      (envelope : TransitEnvelope)
  | connect (now room : Nat)
  | disconnect
  | receive (index : Nat)
  | loseDelivery (index : Nat)
  | ackTransit (indices : List Nat)
  | supervise
  | loseAck (index : Nat)
  | transitAck (env : TransitStore.StoreEnv)
  | sweepExpired (env : TransitStore.StoreEnv)
  | restart

def step (codec : Postcard) (agent : AgentId) (session : Session) : Event → Session
  | .send env gate accepts recipient envelope =>
    (session.handleSend codec agent env gate accepts recipient envelope).2
  | .connect now room => session.connect codec agent now room
  | .disconnect => { session with connected := false }
  | .receive index => session.receive index
  | .loseDelivery index => { session with pushed := session.pushed.eraseIdx index }
  | .ackTransit indices => session.ackTransit indices
  | .supervise => session.supervise
  | .loseAck index => { session with acks := session.acks.eraseIdx index }
  | .transitAck env => session.transitAck codec agent env
  | .sweepExpired env => { session with store := (session.store.sweepExpired env).2 }
  | .restart => session.restart

end Session

end Fetchit.Relay
