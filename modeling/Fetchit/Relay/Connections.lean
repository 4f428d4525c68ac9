import Fetchit.Relay.Directory
import Fetchit.Relay.GroupLog
import Fetchit.Relay.Session

/-! The relay's connections. Each has a bounded outbound channel and a handler that works off one
client frame after the other. The handlers run side by side; what they share is the transit store,
the directory and the session registry, and one step is one handler's next operation on these. -/
namespace Fetchit.Relay
open Proto.Identity Proto.Envelope TransitStore Function

abbrev DedupeKey := Vector UInt8 16

structure SendFrame where
  recipient : AgentId
  envelope : TransitEnvelope
  dedupeKey : DedupeKey
  deriving DecidableEq

inductive ClientFrame where
  | send (send : SendFrame)
  | ping (nonce : Nat)
  | bye
  | transitAck (ackedIds : List Nat)

inductive ByeReason where
  | displacedByNewSession
  deriving DecidableEq

inductive ServerFrame where
  | ack (dedupeKey : DedupeKey) (acceptedAtMs : Nat)
  | deliver (deliver : Deliver)
  | throttle (throttle : Throttle)
  | presenceUpdate (agentId : AgentId) (online : Bool)
  | pong (nonce : Nat)
  | bye (reason : ByeReason)
  | moved (dedupeKey : DedupeKey)
  deriving DecidableEq

def wsOutboundCapacity : Nat := 512

structure Channel where
  /-- All frames that were put on the channel, oldest first. -/
  sent : List ServerFrame
  /-- How many of them the writer has taken off. -/
  taken : Nat
  closed : Bool

namespace Channel

def new : Channel := ⟨[], 0, false⟩

def hasRoom (channel : Channel) : Bool :=
  !channel.closed && decide (channel.sent.length - channel.taken < wsOutboundCapacity)

def trySend (channel : Channel) (frame : ServerFrame) : Channel :=
  if channel.hasRoom then { channel with sent := channel.sent ++ [frame] } else channel

end Channel

inductive Refusal where
  | throttle (throttle : Throttle)
  | moved (dedupeKey : DedupeKey)
  deriving DecidableEq

def Refusal.frame : Refusal → ServerFrame
  | .throttle hint => .throttle hint
  | .moved key => .moved key

inductive Phase where
  | registering
  | reading
  | replaying (stored : List StoredEntry) (deliveredAtMs : Nat)
  | waiting
  | refusing (refusal : Refusal)
  | storing (send : SendFrame)
  | pushing (send : SendFrame) (transitSeq : Nat)
  | acknowledging (send : SendFrame) (transitSeq : Nat)
  | closing
  | closed
  deriving DecidableEq

def Phase.hasWriter : Phase → Bool
  | .registering | .reading | .replaying .. => false
  | _ => true

structure Connection where
  agentId : AgentId
  maxEnvelopeBytes : Nat
  channel : Channel
  phase : Phase

structure Server where
  transit : TransitStore
  records : Directory.ServerState
  /-- All connections so far; a connection's position stands for its session id. -/
  connections : List Connection
  byAgent : AgentId → Option Nat

/-- What a handler does in one step: its next phase, the shared state it leaves, and the channel
it puts a frame on. -/
structure Effect where
  phase : Phase
  transit : TransitStore
  byAgent : AgentId → Option Nat
  frame : Option (Nat × ServerFrame)

def usizeMax : Nat := 2 ^ 64 - 1

def encodedLen (codec : Postcard) (envelope : TransitEnvelope) : Nat :=
  match codec.encode envelope with
  | .ok bytes => bytes.length
  | .error _ => usizeMax

namespace Server

def boot (transit : TransitStore) (records : Directory.ServerState) : Server :=
  ⟨transit, records, [], fun _ => none⟩

def goOn (server : Server) (phase : Phase) : Effect :=
  ⟨phase, server.transit, server.byAgent, none⟩

def put (server : Server) (connection : Nat) (frame : ServerFrame) : Server :=
  { server with
    connections := server.connections.modify connection fun conn =>
      { conn with channel := conn.channel.trySend frame } }

def apply (server : Server) (connection : Nat) (effect : Effect) : Server :=
  let server := { server with
    transit := effect.transit
    byAgent := effect.byAgent
    connections := server.connections.modify connection fun conn =>
      { conn with phase := effect.phase } }
  match effect.frame with
  | none => server
  | some (channel, frame) => server.put channel frame

def isOnline (server : Server) (agent : AgentId) : Bool := (server.byAgent agent).isSome

def route (server : Server) (agent : AgentId) : Option Nat :=
  if agent = fediverseBridgeSender then none else server.byAgent agent

def departed (server : Server) (agent : AgentId) (now : Nat) : Bool :=
  !server.isOnline agent &&
    (Directory.getLiveUnsuperseded server.records (hexId agent) now).isSome

def gates (codec : Postcard) (server : Server) (conn : Connection) (now : Nat) (allowed : Bool)
    (send : SendFrame) : Phase :=
  if encodedLen codec send.envelope > conn.maxEnvelopeBytes then
    .refusing (.throttle ⟨0, .envelopeTooLarge⟩)
  else if !allowed then .refusing (.throttle ⟨1000, .perSenderRate⟩)
  else if send.envelope.senderAgentId ≠ conn.agentId then .waiting
  else if send.envelope.version ≠ 2 ∧ send.envelope.version ≠ 3 then .waiting
  else if server.departed send.recipient now then .refusing (.moved send.dedupeKey)
  else .storing send

def handleClientFrame (codec : Postcard) (server : Server) (connection : Nat) (conn : Connection)
    (env : StoreEnv) (allowed : Bool) : ClientFrame → Effect
  | .send send => server.goOn (server.gates codec conn env.now allowed send)
  | .ping nonce =>
    { server.goOn (if conn.channel.hasRoom then .waiting else .closing) with
      frame := some (connection, .pong nonce) }
  | .bye => server.goOn .closing
  | .transitAck ackedIds =>
    { server.goOn .waiting with
      transit := (server.transit.delete env conn.agentId
        (ackedIds.take maxAckIdsPerFrame)).2 }

def turn (codec : Postcard) (server : Server) (connection : Nat) (conn : Connection)
    (env : StoreEnv) : Effect :=
  match conn.phase with
  | .registering =>
    { server.goOn .reading with
      byAgent := update server.byAgent conn.agentId (some connection)
      frame := (server.byAgent conn.agentId).map fun prior =>
        (prior, .bye .displacedByNewSession) }
  | .reading =>
    server.goOn (.replaying ((server.transit.readAll codec conn.agentId).take replayBatchMax)
      env.now)
  | .replaying [] _ => server.goOn .waiting
  | .replaying (entry :: stored) deliveredAtMs =>
    let next := if conn.channel.hasRoom then .replaying stored deliveredAtMs else .waiting
    { server.goOn next with
      frame := some (connection, .deliver ⟨entry.envelope, entry.id, deliveredAtMs⟩) }
  | .waiting => server.goOn .waiting
  | .refusing refusal =>
    { server.goOn .waiting with frame := some (connection, refusal.frame) }
  | .storing send =>
    match server.transit.enqueue codec env send.recipient send.envelope with
    | (.error _, transit) =>
      { server.goOn (.refusing (.throttle ⟨5000, .perRecipientCapacity⟩)) with
        transit := transit }
    | (.ok transitSeq, transit) =>
      { server.goOn (.pushing send transitSeq) with transit := transit }
  | .pushing send transitSeq =>
    { server.goOn (.acknowledging send transitSeq) with
      frame := (server.route send.recipient).map fun live =>
        (live, .deliver ⟨send.envelope, transitSeq, env.now⟩) }
  | .acknowledging send _ =>
    { server.goOn .waiting with frame := some (connection, .ack send.dedupeKey env.now) }
  | .closing =>
    { server.goOn .closed with
      byAgent := if server.byAgent conn.agentId = some connection then
        update server.byAgent conn.agentId none else server.byAgent }
  | .closed => server.goOn .closed

inductive Event where
  /-- A client authenticates and says hello. -/
  | accept (agentId : AgentId) (maxEnvelopeBytes : Nat)
  | turn (connection : Nat) (env : StoreEnv)
  | receive (connection : Nat) (env : StoreEnv) (allowed : Bool) (frame : ClientFrame)
  /-- The client closes, or the writer's death is noticed. -/
  | hangUp (connection : Nat)
  | write (connection : Nat)
  | writerDies (connection : Nat)
  /-- A watched agent comes or goes. -/
  | presence (connection : Nat) (agentId : AgentId) (online : Bool)
  | sweepExpired (env : StoreEnv)
  /-- Other requests change the directory. -/
  | publish (records : Directory.ServerState)

def act (server : Server) (connection : Nat) (effect : Connection → Effect) : Server :=
  match server.connections[connection]? with
  | none => server
  | some conn => server.apply connection (effect conn)

def modifyChannel (server : Server) (connection : Nat) (change : Connection → Channel) : Server :=
  { server with
    connections := server.connections.modify connection fun conn =>
      { conn with channel := change conn } }

def step (codec : Postcard) (server : Server) : Event → Server
  | .accept agentId maxEnvelopeBytes =>
    { server with
      connections := server.connections ++ [⟨agentId, maxEnvelopeBytes, .new, .registering⟩] }
  | .turn connection env =>
    server.act connection fun conn => server.turn codec connection conn env
  | .receive connection env allowed frame =>
    server.act connection fun conn =>
      if conn.phase = .waiting then
        server.handleClientFrame codec connection conn env allowed frame
      else server.goOn conn.phase
  | .hangUp connection =>
    server.act connection fun conn =>
      server.goOn (if conn.phase = .waiting then .closing else conn.phase)
  | .write connection =>
    server.modifyChannel connection fun conn =>
      if conn.phase.hasWriter && decide (conn.channel.taken < conn.channel.sent.length) then
        { conn.channel with taken := conn.channel.taken + 1 }
      else conn.channel
  | .writerDies connection =>
    server.modifyChannel connection fun conn => { conn.channel with closed := true }
  | .presence connection agentId online =>
    server.put connection (.presenceUpdate agentId online)
  | .sweepExpired env => { server with transit := (server.transit.sweepExpired env).2 }
  | .publish records => { server with records := records }

def agentOf (server : Server) (connection : Nat) : Option AgentId :=
  server.connections[connection]?.map (·.agentId)

def sentOn (server : Server) (connection : Nat) : List ServerFrame :=
  server.connections[connection]?.elim [] (·.channel.sent)

section Spec

variable {codec : Postcard} {server : Server} {connection channel : Nat} {conn : Connection}
  {env : StoreEnv} {frame : ServerFrame}

/-- Which frames a step puts on which channel. -/
inductive Puts (server : Server) : Event → Nat → ServerFrame → Prop
  | displaces {connection prior : Nat} {conn : Connection} {env : StoreEnv}
      (found : server.connections[connection]? = some conn) (phase : conn.phase = .registering)
      (earlier : server.byAgent conn.agentId = some prior) :
      Puts server (.turn connection env) prior (.bye .displacedByNewSession)
  | replays {connection : Nat} {conn : Connection} {env : StoreEnv} {entry : StoredEntry}
      {stored : List StoredEntry} {deliveredAtMs : Nat}
      (found : server.connections[connection]? = some conn)
      (phase : conn.phase = .replaying (entry :: stored) deliveredAtMs) :
      Puts server (.turn connection env) connection
        (.deliver ⟨entry.envelope, entry.id, deliveredAtMs⟩)
  | refuses {connection : Nat} {conn : Connection} {env : StoreEnv} {refusal : Refusal}
      (found : server.connections[connection]? = some conn)
      (phase : conn.phase = .refusing refusal) :
      Puts server (.turn connection env) connection refusal.frame
  | pushes {connection live : Nat} {conn : Connection} {env : StoreEnv} {send : SendFrame}
      {transitSeq : Nat} (found : server.connections[connection]? = some conn)
      (phase : conn.phase = .pushing send transitSeq)
      (routed : server.route send.recipient = some live) :
      Puts server (.turn connection env) live (.deliver ⟨send.envelope, transitSeq, env.now⟩)
  | acknowledges {connection : Nat} {conn : Connection} {env : StoreEnv} {send : SendFrame}
      {transitSeq : Nat} (found : server.connections[connection]? = some conn)
      (phase : conn.phase = .acknowledging send transitSeq) :
      Puts server (.turn connection env) connection (.ack send.dedupeKey env.now)
  | pongs {connection nonce : Nat} {env : StoreEnv} {allowed : Bool} :
      Puts server (.receive connection env allowed (.ping nonce)) connection (.pong nonce)
  | presence {connection : Nat} {agentId : AgentId} {online : Bool} :
      Puts server (.presence connection agentId online) connection
        (.presenceUpdate agentId online)

theorem turn_puts (found : server.connections[connection]? = some conn)
    (framed : (server.turn codec connection conn env).frame = some (channel, frame)) :
    Puts server (.turn connection env) channel frame := by
  unfold turn at framed
  split at framed
  next phase =>
    obtain ⟨prior, earlier, same⟩ := Option.map_eq_some_iff.mp framed
    cases same
    exact .displaces found phase earlier
  next => cases framed
  next => cases framed
  next phase =>
    cases framed
    exact .replays found phase
  next => cases framed
  next phase =>
    cases framed
    exact .refuses found phase
  next =>
    split at framed
    · cases framed
    · cases framed
  next phase =>
    obtain ⟨live, routed, same⟩ := Option.map_eq_some_iff.mp framed
    cases same
    exact .pushes found phase routed
  next phase =>
    cases framed
    exact .acknowledges found phase
  next => cases framed
  next => cases framed

theorem handleClientFrame_puts
    (framed : (server.handleClientFrame codec connection conn env allowed request).frame =
      some (channel, frame)) :
    Puts server (.receive connection env allowed request) channel frame := by
  cases request with
  | ping nonce =>
    cases framed
    exact .pongs
  | send | bye | transitAck => cases framed

theorem getElem?_put (server : Server) (channel position : Nat) (frame : ServerFrame) :
    (server.put channel frame).connections[position]? =
      server.connections[position]?.map fun conn =>
        if channel = position then { conn with channel := conn.channel.trySend frame }
        else conn := by
  unfold put
  rw [List.getElem?_modify]
  by_cases here : channel = position
  · simp
  · simp

def Effect.on (effect : Effect) (position : Nat) (actor : Bool) (conn : Connection) : Connection :=
  let conn := if actor then { conn with phase := effect.phase } else conn
  match effect.frame with
  | none => conn
  | some (channel, frame) =>
    if channel = position then { conn with channel := conn.channel.trySend frame } else conn

section
variable (server : Server) (connection position : Nat)

theorem getElem?_apply (effect : Effect) :
    (server.apply connection effect).connections[position]? =
      server.connections[position]?.map
        (Effect.on effect position (decide (connection = position))) := by
  unfold apply Effect.on
  cases effect.frame with
  | none =>
    rw [List.getElem?_modify]
    by_cases here : connection = position <;> simp
  | some target =>
    rw [getElem?_put, List.getElem?_modify]
    cases server.connections[position]? with
    | none => rfl
    | some conn => by_cases here : connection = position <;> simp

theorem agentOf_apply (effect : Effect) :
    (server.apply connection effect).agentOf position = server.agentOf position := by
  unfold agentOf
  rw [getElem?_apply, Option.map_map]
  unfold Effect.on
  dsimp only
  split
  · split <;> rfl
  · split <;> split <;> rfl

theorem agentOf_modifyChannel (change : Connection → Channel) :
    (server.modifyChannel connection change).agentOf position = server.agentOf position := by
  unfold agentOf modifyChannel
  by_cases here : connection = position <;> simp [here, comp_def]

end

variable {event : Event} {position : Nat} {agent : AgentId} {effect : Connection → Effect}
  {after : Connection}

theorem agentOf_step (there : server.agentOf position = some agent) :
    (server.step codec event).agentOf position = some agent := by
  have act (connection : Nat) (effect : Connection → Effect) :
      (server.act connection effect).agentOf position = some agent := by
    unfold act
    split
    · exact there
    · rw [agentOf_apply]
      exact there
  cases event with
  | accept agentId maxEnvelopeBytes =>
    unfold step agentOf
    obtain ⟨conn, found, same⟩ := Option.map_eq_some_iff.mp there
    rw [List.getElem?_append_left (List.getElem?_eq_some_iff.mp found).1, found, Option.map_some,
      same]
  | turn connection env | receive connection env allowed request | hangUp connection =>
    exact act connection _
  | write | writerDies | presence => exact (agentOf_modifyChannel ..).trans there
  | sweepExpired | publish => exact there

/-- How a step moves the handler of a connection on. -/
inductive Moves (codec : Postcard) (server : Server) (connection : Nat) (conn : Connection) :
    Event → Phase → Prop
  | turns {env : StoreEnv} :
      Moves codec server connection conn (.turn connection env)
        (server.turn codec connection conn env).phase
  | handles {env : StoreEnv} {allowed : Bool} {request : ClientFrame}
      (waiting : conn.phase = .waiting) :
      Moves codec server connection conn (.receive connection env allowed request)
        (server.handleClientFrame codec connection conn env allowed request).phase
  | hangsUp (waiting : conn.phase = .waiting) :
      Moves codec server connection conn (.hangUp connection) .closing

structure Became (codec : Postcard) (server : Server) (event : Event) (position : Nat)
    (conn after : Connection) : Prop where
  agentId : after.agentId = conn.agentId
  maxEnvelopeBytes : after.maxEnvelopeBytes = conn.maxEnvelopeBytes
  sent : after.channel.sent = conn.channel.sent ∨ ∃ frame, Puts server event position frame ∧
    conn.channel.hasRoom ∧ after.channel.sent = conn.channel.sent ++ [frame]
  phase : after.phase = conn.phase ∨ Moves codec server position conn event after.phase

theorem sent_trySend (channel : Channel) (frame : ServerFrame) :
    (channel.trySend frame).sent = channel.sent ∨
      channel.hasRoom ∧ (channel.trySend frame).sent = channel.sent ++ [frame] := by
  unfold Channel.trySend
  by_cases room : channel.hasRoom
  · rw [if_pos room]
    exact .inr ⟨room, rfl⟩
  · rw [if_neg room]
    exact .inl rfl

theorem Became.refl :
    Became codec server event position conn conn :=
  ⟨rfl, rfl, .inl rfl, .inl rfl⟩

theorem became_on {actor : Bool} {effect : Effect}
    (puts : ∀ frame, effect.frame = some (position, frame) → Puts server event position frame)
    (moves : actor → effect.phase = conn.phase ∨
      Moves codec server position conn event effect.phase) :
    Became codec server event position conn (Effect.on effect position actor conn) := by
  -- the handler's part, before a frame is put on the channel
  have moved : ∀ part : Connection,
      part = (if actor then { conn with phase := effect.phase } else conn) →
      part.agentId = conn.agentId ∧ part.maxEnvelopeBytes = conn.maxEnvelopeBytes ∧
        part.channel = conn.channel ∧
        (part.phase = conn.phase ∨ Moves codec server position conn event part.phase) := by
    rintro part rfl
    cases actor with
    | false => exact ⟨rfl, rfl, rfl, .inl rfl⟩
    | true => exact ⟨rfl, rfl, rfl, moves rfl⟩
  obtain ⟨agentId, maxEnvelopeBytes, same, phase⟩ := moved _ rfl
  unfold Effect.on
  cases framed : effect.frame with
  | none => exact ⟨agentId, maxEnvelopeBytes, .inl (congrArg Channel.sent same), phase⟩
  | some target =>
    dsimp only
    by_cases here : target.1 = position
    · rw [if_pos here]
      refine ⟨agentId, maxEnvelopeBytes, ?_, phase⟩
      rw [same]
      rcases sent_trySend conn.channel target.2 with full | ⟨room, sent⟩
      · exact .inl full
      · exact .inr ⟨target.2, puts target.2 (by rw [framed, ← here]), room, sent⟩
    · rw [if_neg here]
      exact ⟨agentId, maxEnvelopeBytes, .inl (congrArg Channel.sent same), phase⟩

theorem became_act (puts : ∀ conn channel frame, server.connections[connection]? = some conn →
      (effect conn).frame = some (channel, frame) → Puts server event channel frame)
    (moves : ∀ conn, server.connections[connection]? = some conn →
      (effect conn).phase = conn.phase ∨
        Moves codec server connection conn event (effect conn).phase)
    (there : (server.act connection effect).connections[position]? = some after) :
    ∃ conn, server.connections[position]? = some conn ∧
      Became codec server event position conn after := by
  unfold act at there
  cases found : server.connections[connection]? with
  | none =>
    rw [found] at there
    exact ⟨after, there, .refl⟩
  | some actor =>
    rw [found] at there
    rw [getElem?_apply] at there
    obtain ⟨conn, here, rfl⟩ := Option.map_eq_some_iff.mp there
    refine ⟨conn, here, became_on (fun frame framed => puts actor position frame found framed) ?_⟩
    intro own
    obtain rfl := of_decide_eq_true own
    rw [found] at here
    cases here
    exact moves actor found

theorem became_channel
    (sent : ∀ conn, (change conn).sent = conn.channel.sent ∨ ∃ frame,
      Puts server event connection frame ∧ conn.channel.hasRoom ∧
        (change conn).sent = conn.channel.sent ++ [frame])
    (there : (server.modifyChannel connection change).connections[position]? = some after) :
    ∃ conn, server.connections[position]? = some conn ∧
      Became codec server event position conn after := by
  unfold modifyChannel at there
  rw [List.getElem?_modify] at there
  obtain ⟨conn, here, rfl⟩ := Option.map_eq_some_iff.mp there
  refine ⟨conn, here, ?_⟩
  by_cases own : connection = position
  · subst own
    rw [if_pos rfl]
    exact ⟨rfl, rfl, sent conn, .inl rfl⟩
  · rw [if_neg own]
    exact .refl

theorem connection_step (there : (server.step codec event).connections[position]? = some after) :
    (∃ agentId maxEnvelopeBytes, after = ⟨agentId, maxEnvelopeBytes, .new, .registering⟩ ∧
      position = server.connections.length) ∨
    ∃ conn, server.connections[position]? = some conn ∧
      Became codec server event position conn after := by
  cases event with
  | accept agentId maxEnvelopeBytes =>
    unfold step at there
    rw [List.getElem?_append] at there
    split at there
    · exact .inr ⟨after, there, .refl⟩
    · left
      rw [List.getElem?_singleton] at there
      split at there
      · cases there
        exact ⟨agentId, maxEnvelopeBytes, rfl, by omega⟩
      · cases there
  | turn connection env =>
    right
    exact became_act (fun conn channel frame found => turn_puts found)
      (fun conn found => .inr .turns) there
  | receive connection env allowed request =>
    right
    refine became_act ?_ ?_ there
    · intro conn channel frame found framed
      split at framed
      · exact handleClientFrame_puts framed
      · cases framed
    · intro conn found
      split
      · rename_i waiting
        exact .inr (.handles waiting)
      · exact .inl rfl
  | hangUp connection =>
    right
    refine became_act ?_ ?_ there
    · intro conn channel frame found framed
      cases framed
    · intro conn found
      split
      · rename_i waiting
        exact .inr (.hangsUp waiting)
      · exact .inl rfl
  | write connection =>
    right
    refine became_channel ?_ there
    intro conn
    split <;> exact .inl rfl
  | writerDies connection =>
    right
    refine became_channel ?_ there
    exact fun conn => .inl rfl
  | presence connection agentId online =>
    right
    refine became_channel ?_ there
    intro conn
    rcases sent_trySend conn.channel (.presenceUpdate agentId online) with full | ⟨room, sent⟩
    · exact .inl full
    · exact .inr ⟨_, .presence, room, sent⟩
  | sweepExpired | publish => exact .inr ⟨after, there, .refl⟩

inductive Transits (codec : Postcard) (server : Server) : Event → TransitStore → Prop
  | same {event : Event} : Transits codec server event server.transit
  | stores {connection : Nat} {conn : Connection} {env : StoreEnv} {send : SendFrame}
      (found : server.connections[connection]? = some conn) (phase : conn.phase = .storing send) :
      Transits codec server (.turn connection env)
        (server.transit.enqueue codec env send.recipient send.envelope).2
  | deletes {connection : Nat} {conn : Connection} {env : StoreEnv} {allowed : Bool}
      {ackedIds : List Nat} (found : server.connections[connection]? = some conn) :
      Transits codec server (.receive connection env allowed (.transitAck ackedIds))
        (server.transit.delete env conn.agentId (ackedIds.take maxAckIdsPerFrame)).2
  | sweeps {env : StoreEnv} :
      Transits codec server (.sweepExpired env) (server.transit.sweepExpired env).2

theorem transit_apply (effect : Effect) :
    (server.apply connection effect).transit = effect.transit := by
  unfold apply
  cases effect.frame with
  | none | some => rfl

theorem transit_act (transits : ∀ conn, server.connections[connection]? = some conn →
      Transits codec server event (effect conn).transit) :
    Transits codec server event (server.act connection effect).transit := by
  unfold act
  cases found : server.connections[connection]? with
  | none => exact .same
  | some conn =>
    rw [transit_apply]
    exact transits conn found

theorem transit_step (codec : Postcard) (server : Server) (event : Event) :
    Transits codec server event (server.step codec event).transit := by
  cases event with
  | turn connection env =>
    refine transit_act fun conn found => ?_
    unfold turn
    split
    case h_7 send phase =>
      have stores : Transits codec server (.turn connection env) _ := .stores found phase
      split
      next error transit failed =>
        rw [failed] at stores
        exact stores
      next transitSeq transit stored =>
        rw [stored] at stores
        exact stores
    all_goals exact .same
  | receive connection env allowed request =>
    refine transit_act fun conn found => ?_
    split
    · cases request with
      | transitAck ackedIds => exact .deletes found
      | send | ping | bye => exact .same
    · exact .same
  | hangUp connection => exact transit_act fun conn found => .same
  | sweepExpired env => exact .sweeps
  | accept | write | writerDies | presence | publish => exact .same

theorem byAgent_act (there : (server.act connection effect).byAgent agent = some position) :
    server.byAgent agent = some position ∨
      ∃ conn, server.connections[connection]? = some conn ∧
        (effect conn).byAgent agent = some position := by
  unfold act at there
  cases found : server.connections[connection]? with
  | none =>
    rw [found] at there
    exact .inl there
  | some conn =>
    rw [found] at there
    refine .inr ⟨conn, rfl, ?_⟩
    unfold apply at there
    cases framed : (effect conn).frame with
    | none | some =>
      simp only [framed] at there
      exact there

theorem byAgent_turn
    (there : (server.turn codec connection conn env).byAgent agent = some position) :
    server.byAgent agent = some position ∨ agent = conn.agentId ∧ position = connection := by
  unfold turn at there
  split at there
  case h_1 =>
    by_cases own : agent = conn.agentId
    · subst own
      simp only [update_self, Option.some.injEq] at there
      exact .inr ⟨rfl, there.symm⟩
    · simp only [update_of_ne own] at there
      exact .inl there
  case h_7 => split at there <;> exact .inl there
  case h_10 =>
    split at there
    · by_cases own : agent = conn.agentId
      · subst own
        simp only [update_self, reduceCtorEq] at there
      · simp only [update_of_ne own] at there
        exact .inl there
    · exact .inl there
  all_goals exact .inl there

theorem byAgent_step (there : (server.step codec event).byAgent agent = some position) :
    server.byAgent agent = some position ∨
      ∃ conn, server.connections[position]? = some conn ∧ conn.agentId = agent := by
  cases event with
  | turn connection env =>
    rcases byAgent_act there with old | ⟨conn, found, routed⟩
    · exact .inl old
    · rcases byAgent_turn routed with old | ⟨rfl, rfl⟩
      · exact .inl old
      · exact .inr ⟨conn, found, rfl⟩
  | receive connection env allowed request =>
    rcases byAgent_act there with old | ⟨conn, found, routed⟩
    · exact .inl old
    · left
      split at routed
      · cases request <;> exact routed
      · exact routed
  | hangUp connection =>
    rcases byAgent_act there with old | ⟨conn, found, routed⟩
    · exact .inl old
    · exact .inl routed
  | accept | write | writerDies | presence | sweepExpired | publish => exact .inl there

end Spec

end Server

end Fetchit.Relay
