import Fetchit.Lan.PeerKeys

/-! Whom a LAN send reaches. The address comes from unauthenticated discovery, and the
handshake proves the identity of some known contact; the send succeeds for whichever contact
answers there. -/
namespace Fetchit.Lan
open Lib Lib.Outcome Chat Proto.Identity Proto.Envelope

namespace LanDirectTransport

theorem connect_of_dial (h : dial suite transport env recipient envelope = .ok dialled) :
    ∃ record, env.connect record = .ok dialled.stream := by
  simp only [dial, bind_eq_ok] at h
  obtain ⟨_, _, record, _, stream, connected, _, _, _, _, _, _, done⟩ := h
  cases done
  exact ⟨record, connected⟩

/-- A send that succeeds has reached the addressee, where the host that is dialled holds the key of
no other contact. -/
theorem send_reaches_addressee (suite : LanSuite) (transport : LanDirectTransport)
    (env : SendEnv) (recipient : String) (envelope : OutboundEnvelope) (receipt : SendReceipt)
    (holds : Bytes → Prop)
    (farEnd : ∀ record stream, env.connect record = .ok stream → FarEnd suite stream holds)
    (single : ∀ agentId key, transport.peerPubkeyLookup agentId = some key → holds key →
      agentIdBytes suite recipient = .ok agentId)
    (sent : send suite transport env recipient envelope = .ok receipt) :
    ∃ dialled bound key, dial suite transport env recipient envelope = .ok dialled ∧
      handshake suite transport dialled = .ok bound ∧
      agentIdBytes suite recipient = .ok bound.verified.agentId ∧
      transport.peerPubkeyLookup bound.verified.agentId = some key ∧ holds key := by
  simp only [send, bind_eq_ok] at sent
  obtain ⟨dialled, dials, bound, shaken, _⟩ := sent
  obtain ⟨record, connected⟩ := connect_of_dial dials
  obtain ⟨offer, offered, verified, peer⟩ := runInitiatorBound_eq_ok shaken
  obtain ⟨key, known, signed⟩ := offer.verify_eq_ok verified
  have held : holds key := (farEnd record dialled.stream connected).responder offered signed
  refine ⟨dialled, bound, key, dials, shaken, ?_⟩
  rw [peer]
  exact ⟨single offer.proof.agentId key known held, known, held⟩

end LanDirectTransport

def aliceId : AgentId := deriveAgentId (idealCrypto []) aliceKey

def aliceTransport : LanDirectTransport where
  localAgentId := hexId aliceId
  staticSec := lanKey
  x25519Pub := lanKey
  createdAtMs := 0
  sign _ := .ok []
  table := (∅ : Map String LanPeerRecord).insert (hexId bobId) ⟨hexId bobId, "10.0.0.7", 4000, 0⟩
  contactPubkeyLookup agentId :=
    if agentId = hexId bobId then some bobKey
    else if agentId = hexId malloryId then some malloryKey else none

def aliceEnvelope : TransitEnvelope := idealEnvelope .dm bobGroup 5 aliceKey []

def dialledBob : Dialled := ⟨openStream, aliceEnvelope, aliceId, bobId, [aliceId.toList]⟩

def lanSend : LanDirectTransport.SendEnv := ⟨0, 0, fun _ => .ok openStream⟩

def sealedToBob : OutboundEnvelope := ⟨.dm, none, [], 0, some aliceEnvelope⟩

/-- The handshake with a host that offers the proof of an agent, signed with a key. -/
def answeredBy (agentId : AgentId) (key : Bytes) : Option AgentId :=
  let suite := offeringSuite [bindingEntry agentId key] agentId key
  (LanDirectTransport.handshake suite aliceTransport dialledBob).toOption.map (·.verified.agentId)

theorem send_bob (answered : answeredBy agentId key = some agentId) :
    let suite := offeringSuite [bindingEntry agentId key] agentId key
    ∃ bound, LanDirectTransport.dial suite aliceTransport lanSend (hexId bobId) sealedToBob =
        .ok dialledBob ∧
      LanDirectTransport.handshake suite aliceTransport dialledBob = .ok bound ∧
      bound.verified.agentId = agentId ∧
      LanDirectTransport.send suite aliceTransport lanSend (hexId bobId) sealedToBob =
        .ok ⟨0, none, transportName⟩ := by
  intro suite
  have dials : LanDirectTransport.dial suite aliceTransport lanSend (hexId bobId) sealedToBob =
      .ok dialledBob := by with_unfolding_all rfl
  obtain ⟨bound, shaken, named⟩ := map_toOption_eq_some.mp answered
  refine ⟨bound, dials, shaken, named, ?_⟩
  simp only [LanDirectTransport.send, bind_eq_ok]
  exact ⟨dialledBob, dials, bound, shaken, rfl⟩

/-- Bob answers at Bob's address, and of Alice's two contacts it is Bob whose key is held there. -/
theorem send_to_bob_reaches_bob :
    let suite := offeringSuite [bindingEntry bobId bobKey] bobId bobKey
    ∃ dialled bound,
      LanDirectTransport.handshake suite aliceTransport dialled = .ok bound ∧
        agentIdBytes suite (hexId bobId) = .ok bound.verified.agentId := by
  intro suite
  obtain ⟨_, _, _, _, sent⟩ := send_bob (by decide +kernel : answeredBy bobId bobKey = some bobId)
  have single : ∀ agentId key, aliceTransport.peerPubkeyLookup agentId = some key →
      key ∈ [bindingEntry bobId bobKey].map Prod.fst →
      agentIdBytes suite (hexId bobId) = .ok agentId := by
    intro agentId key known held
    have own : agentIdBytes suite (hexId bobId) = .ok bobId := by with_unfolding_all rfl
    rw [LanDirectTransport.peerPubkeyLookup, parseAgentId_hexId] at known
    simp only [Option.bind_some, aliceTransport] at known
    split at known
    · rename_i named
      rw [own, hexId_injective named]
    · split at known
      · cases known
        exact absurd held (by decide)
      · cases known
  obtain ⟨dialled, bound, _, _, shaken, reached, _⟩ :=
    LanDirectTransport.send_reaches_addressee suite aliceTransport lanSend (hexId bobId) sealedToBob
      _ (· ∈ [bindingEntry bobId bobKey].map Prod.fst)
      (fun _ _ connected => by cases connected; exact farEnd_signers ..) single sent
  exact ⟨dialled, bound, shaken, reached⟩

/-- Mallory, another known contact, answers at Bob's address: the send to Bob succeeds. -/
theorem send_to_bob_reaches_mallory :
    let suite := offeringSuite [bindingEntry malloryId malloryKey] malloryId malloryKey
    malloryId ≠ bobId ∧ ∃ bound,
      LanDirectTransport.dial suite aliceTransport lanSend (hexId bobId) sealedToBob =
          .ok dialledBob ∧
        LanDirectTransport.handshake suite aliceTransport dialledBob = .ok bound ∧
        bound.verified.agentId = malloryId ∧
        LanDirectTransport.send suite aliceTransport lanSend (hexId bobId) sealedToBob =
          .ok ⟨0, none, transportName⟩ := by
  refine ⟨fun same => malloryId_ne_bobId (congrArg hexId same), send_bob ?_⟩
  decide +kernel

end Fetchit.Lan
