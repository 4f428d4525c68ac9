import Fetchit.Lan.Noise
import Fetchit.Transport.Types
import Fetchit.Chat.Registry

/-! The LAN-direct transport: one connection per send, dialled from the peer table that
unauthenticated discovery fills, and the pump that hands inbound envelopes on. -/
namespace Fetchit.Lan
open Lib Lib.Outcome Chat Proto.Identity Proto.Envelope

def transportName : String := "lan-direct"

def prologuePrefix : String := "fetchit-lan-v1"

def peerTtlMs : Nat := 300 * 1000

structure LanPeerRecord where
  agentId : String
  ip : String
  port : UInt16
  lastSeen : Nat
  deriving DecidableEq

abbrev LanPeerTable := Map String LanPeerRecord

/-- A stale entry is not returned and is dropped from the table. -/
def LanPeerTable.find (table : LanPeerTable) (now : Nat) (agentId : String) :
    Option LanPeerRecord × LanPeerTable :=
  match table.lookup agentId with
  | some record =>
    if now - record.lastSeen ≤ peerTtlMs then (some record, table)
    else (none, table.erase agentId)
  | none => (none, table)

def agentIdBytes (suite : LanSuite) (agentId : String) : Except ChatError AgentId := do
  let raw ← okOr (Text.hexDecode agentId) (.invalid s!"agent id: {suite.hexError agentId}")
  if h : raw.length = 32 then .ok ⟨raw.toArray, by simpa using h⟩
  else .error (.invalid s!"agent id: expected 32 bytes, got {raw.length}")

def makePrologue (initAid respAid : AgentId) : Bytes :=
  utf8 prologuePrefix ++ initAid.toList ++ respAid.toList

structure LanDirectTransport where
  localAgentId : String
  staticSec : X25519Key
  x25519Pub : X25519Key
  createdAtMs : Nat
  sign : Bytes → Except ChatError Bytes
  table : LanPeerTable
  contactPubkeyLookup : String → Option Bytes

namespace LanDirectTransport

def me (transport : LanDirectTransport) (agentId : AgentId) : LanLocal :=
  ⟨transport.staticSec, agentId, transport.x25519Pub, transport.createdAtMs, transport.sign⟩

def peerPubkeyLookup (transport : LanDirectTransport) (agentId : AgentId) : Option Bytes :=
  (parseAgentId (hexId agentId)).bind transport.contactPubkeyLookup

end LanDirectTransport

def materialiseTransit (suite : LanSuite) (localAgentId : String) (envelope : OutboundEnvelope) :
    Except ChatError TransitEnvelope := do
  let localAid ← agentIdBytes suite localAgentId
  let prebuilt ← okOr envelope.transit (.sealedRequired "LanDirectTransport::send")
  require (prebuilt.senderAgentId == localAid)
    (.invalid (s!"prebuilt envelope sender_agent_id mismatch: claimed " ++
      s!"{hexId prebuilt.senderAgentId}, local {localAgentId}"))
  .ok prebuilt

/-- A connection that is dialled and has carried the header. -/
structure Dialled where
  stream : Stream
  transit : TransitEnvelope
  localAid : AgentId
  peerAid : AgentId
  sent : List Bytes

namespace LanDirectTransport

/-- What one send reads of the world: the clock, and the host at an address. -/
structure SendEnv where
  now : Nat
  nowMs : Nat
  connect : LanPeerRecord → Except ChatError Stream

def dial (suite : LanSuite) (transport : LanDirectTransport) (env : SendEnv) (recipient : String)
    (envelope : OutboundEnvelope) : Except ChatError Dialled := do
  let transit ← materialiseTransit suite transport.localAgentId envelope
  let record ← okOr (transport.table.find env.now recipient).1
    (.messageTransport s!"lan peer AgentId({Text.quoted recipient}) stale")
  let stream ← env.connect record
  let localAid ← agentIdBytes suite transport.localAgentId
  let peerAid ← agentIdBytes suite recipient
  let sent ← writeAll stream [] localAid.toList
  .ok ⟨stream, transit, localAid, peerAid, sent⟩

def handshake (suite : LanSuite) (transport : LanDirectTransport) (dialled : Dialled) :
    Except ChatError (BoundChannel suite) :=
  runInitiatorBound suite dialled.stream dialled.sent
    (makePrologue dialled.localAid dialled.peerAid) (transport.me dialled.localAid)
    transport.peerPubkeyLookup

def deliver (suite : LanSuite) (env : SendEnv) (dialled : Dialled) (bound : BoundChannel suite) :
    Except ChatError SendReceipt := do
  let bytes ← (suite.encodeTransit dialled.transit).mapError fun reason =>
    .invalid s!"transit encode: {reason}"
  let _ ← writeAppFrame suite dialled.stream bound bytes
  .ok ⟨env.nowMs, none, transportName⟩

/-- The peer that the handshake verified is not looked at. -/
def send (suite : LanSuite) (transport : LanDirectTransport) (env : SendEnv) (recipient : String)
    (envelope : OutboundEnvelope) : Except ChatError SendReceipt := do
  let dialled ← dial suite transport env recipient envelope
  let bound ← handshake suite transport dialled
  deliver suite env dialled bound

end LanDirectTransport

def inboundEnvelopeFromTransit (sender : String) (transit : TransitEnvelope) :
    Option InboundEnvelope :=
  let group := OutboundKind.group ((transit.groupId.map hexId).getD "")
  let inbound := fun kind => some
    ⟨kind, sender, transit.ciphertext, transit.timestampMs, transportName, some transit, none⟩
  match transit.kind with
  | .dm | .adminEvent | .x0xdGroupMetadataEvent => inbound .dm
  | .groupChat | .privateGroupChat | .deliveryReceipt => inbound group
  | .unknown _ | .publicPost | .pairRecordPush | .reserved7 => none

def pump (suite : LanSuite) (stream : Stream) (sent : List Bytes) (verified : VerifiedPeer) :
    Nat → Nat → suite.snow.Channel → List InboundEnvelope × Except ChatError Unit
  | 0, _, _ => ([], .ok ())
  | fuel + 1, received, channel =>
    match readAppFrame suite stream sent received channel with
    | .error (.io _) => ([], .ok ())
    | .error error => ([], .error error)
    | .ok (bytes, channel) =>
      match suite.decodeTransit bytes with
      | .error reason => ([], .error (.invalid s!"transit decode: {reason}"))
      | .ok transit =>
        if transit.senderAgentId ≠ verified.agentId then
          ([], .error (.invalid (s!"transit sender_agent_id mismatch: claimed " ++
            s!"{hexId transit.senderAgentId}, authenticated {hexId verified.agentId}")))
        else
          let rest := pump suite stream sent verified fuel (received + 1) channel
          match inboundEnvelopeFromTransit (hexId verified.agentId) transit with
          | none => rest
          | some inbound => (inbound :: rest.1, rest.2)

def handleInboundConn (suite : LanSuite) (transport : LanDirectTransport) (stream : Stream)
    (header : Except ChatError AgentId) (fuel : Nat) :
    List InboundEnvelope × Except ChatError Unit :=
  let established : Except ChatError (BoundChannel suite) := do
    let initAid ← header
    let myAid ← agentIdBytes suite transport.localAgentId
    runResponderBound suite stream (makePrologue initAid myAid) (transport.me myAid)
      transport.peerPubkeyLookup
  match established with
  | .error error => ([], .error error)
  | .ok bound => pump suite stream bound.sent bound.verified fuel 2 bound.channel

theorem inboundEnvelopeFromTransit_eq_some
    (h : inboundEnvelopeFromTransit sender transit = some inbound) :
    inbound.sender = sender ∧ inbound.transit = some transit := by
  unfold inboundEnvelopeFromTransit at h
  split at h <;> cases h <;> exact ⟨rfl, rfl⟩

theorem mem_pump (h : inbound ∈ (pump suite stream sent verified fuel received channel).1) :
    inbound.sender = hexId verified.agentId ∧
      ∃ transit, inbound.transit = some transit ∧ transit.senderAgentId = verified.agentId := by
  induction fuel generalizing received channel with
  | zero => cases h
  | succ fuel ih =>
    unfold pump at h
    split at h
    · cases h
    · cases h
    · split at h
      · cases h
      · rename_i transit _
        split at h
        · cases h
        · rename_i bound
          split at h
          · exact ih h
          · rename_i first mapped
            rcases List.mem_cons.mp h with rfl | later
            · obtain ⟨sender, carried⟩ := inboundEnvelopeFromTransit_eq_some mapped
              exact ⟨sender, transit, carried, not_not.mp bound⟩
            · exact ih later

end Fetchit.Lan
