import Fetchit.Chat.Crypto

/-! Framed Noise XX with the channel binding: handshake messages 2 and 3 carry an ML-DSA
signature over the handshake hash that binds the X25519 static key to an agent id. The Noise
library and the byte stream are parameters. -/
namespace Fetchit.Lan
open Lib Lib.Outcome Chat Proto.Identity Proto.Envelope

def maxFrame : Nat := 65535

abbrev X25519Key := Vector UInt8 32

/-- The Noise library. A handshake that writes or reads a message moves to its next state. -/
structure Snow where
  Handshake : Type
  Channel : Type
  build (initiator : Bool) (prologue : Bytes) (staticSec : X25519Key) : Except String Handshake
  writeMessage : Handshake → Bytes → Except String (Bytes × Handshake)
  readMessage : Handshake → Bytes → Except String (Bytes × Handshake)
  handshakeHash : Handshake → Bytes
  remoteStatic : Handshake → Option Bytes
  intoTransportMode : Handshake → Except String Channel
  sealFrame : Channel → Bytes → Except String (Bytes × Channel)
  openFrame : Channel → Bytes → Except String (Bytes × Channel)

def snowErr (reason : String) : ChatError := .invalid s!"snow: {reason}"

/-- The far end of a connection: the outcome of a write, and the next frame, given what was
written before and how many frames were read. -/
structure Stream where
  write (sent : List Bytes) (bytes : Bytes) : Except ChatError Unit
  read (sent : List Bytes) (received : Nat) : Except ChatError Bytes

def writeAll (stream : Stream) (sent : List Bytes) (bytes : Bytes) :
    Except ChatError (List Bytes) := do
  stream.write sent bytes
  .ok (sent ++ [bytes])

def writeFrameRaw (stream : Stream) (sent : List Bytes) (body : Bytes) :
    Except ChatError (List Bytes) := do
  require (body.length ≤ maxFrame) (.invalid s!"lan frame {body.length} exceeds cap {maxFrame}")
  writeAll stream sent (bigEndian 4 body.length ++ body)

def readFrameRaw (stream : Stream) (sent : List Bytes) (received : Nat) :
    Except ChatError Bytes := do
  let body ← stream.read sent received
  require (body.length ≤ maxFrame)
    (.invalid s!"inbound lan frame {body.length} exceeds cap {maxFrame}")
  .ok body

structure LanBindingProof where
  agentId : AgentId
  x25519Pub : X25519Key
  createdAtMs : Nat
  sig : Bytes
  deriving DecidableEq

structure VerifiedPeer where
  agentId : AgentId
  x25519Pub : X25519Key
  createdAtMs : Nat
  deriving DecidableEq

structure LanSuite where
  snow : Snow
  signing : Crypto
  encodeProof : LanBindingProof → Except String Bytes
  decodeProof : Bytes → Except String LanBindingProof
  encodeTransit : TransitEnvelope → Except String Bytes
  decodeTransit : Bytes → Except String TransitEnvelope
  hexError : String → String

structure LanLocal where
  staticSec : X25519Key
  agentId : AgentId
  x25519Pub : X25519Key
  createdAtMs : Nat
  sign : Bytes → Except ChatError Bytes

def bindSigningBytes (agentId : AgentId) (x25519Pub : X25519Key) (createdAtMs : Nat)
    (handshakeHash : Bytes) : Bytes :=
  lanBindingBytes agentId x25519Pub createdAtMs ++ handshakeHash

section
variable (suite : LanSuite)

def verifyPeerBinding (hs : suite.snow.Handshake) (proof : LanBindingProof)
    (expectedHash : Bytes) (peerPubkeyLookup : AgentId → Option Bytes) : Except ChatError Unit := do
  let peerPk ← okOr (peerPubkeyLookup proof.agentId)
    (.invalid s!"lan peer {hexId proof.agentId} has no known ML-DSA pubkey")
  let recovered ← okOr (suite.snow.remoteStatic hs) (.invalid "snow: no remote static")
  require (recovered == proof.x25519Pub.toList)
    (.invalid "lan binding x25519 mismatch with handshake static")
  mlDsaVerify suite.signing peerPk
    (agentSignInput (bindSigningBytes proof.agentId proof.x25519Pub proof.createdAtMs expectedHash))
    proof.sig

def bindingPayload (me : LanLocal) (handshakeHash : Bytes) : Except ChatError Bytes := do
  let sig ← me.sign (bindSigningBytes me.agentId me.x25519Pub me.createdAtMs handshakeHash)
  (suite.encodeProof ⟨me.agentId, me.x25519Pub, me.createdAtMs, sig⟩).mapError fun reason =>
    .invalid s!"lan binding encode: {reason}"

/-- The proof that the remote side offers, the handshake after reading it, the hash it must
have signed, and what was written so far. -/
structure Offer where
  proof : LanBindingProof
  hs : suite.snow.Handshake
  signedHash : Bytes
  sent : List Bytes

def readOffer (stream : Stream) (hs : suite.snow.Handshake) (sent : List Bytes)
    (received : Nat) : Except ChatError (Offer suite) := do
  let message ← readFrameRaw stream sent received
  let read ← (suite.snow.readMessage hs message).mapError snowErr
  let proof ← (suite.decodeProof read.1).mapError fun reason =>
    .invalid s!"lan binding decode: {reason}"
  .ok ⟨proof, read.2, suite.snow.handshakeHash hs, sent⟩

def initiatorOffer (stream : Stream) (sent : List Bytes) (prologue : Bytes) (me : LanLocal) :
    Except ChatError (Offer suite) := do
  let hs ← (suite.snow.build true prologue me.staticSec).mapError snowErr
  let first ← (suite.snow.writeMessage hs []).mapError snowErr
  let sent ← writeFrameRaw stream sent first.1
  readOffer suite stream first.2 sent 0

def responderOffer (stream : Stream) (prologue : Bytes) (me : LanLocal) :
    Except ChatError (Offer suite) := do
  let hs ← (suite.snow.build false prologue me.staticSec).mapError snowErr
  let message ← readFrameRaw stream [] 0
  let read ← (suite.snow.readMessage hs message).mapError snowErr
  let payload ← bindingPayload suite me (suite.snow.handshakeHash read.2)
  let second ← (suite.snow.writeMessage read.2 payload).mapError snowErr
  let sent ← writeFrameRaw stream [] second.1
  readOffer suite stream second.2 sent 1

/-- An established channel and what the handshake proved about the peer. -/
structure BoundChannel where
  channel : suite.snow.Channel
  verified : VerifiedPeer
  sent : List Bytes

def Offer.peer {suite : LanSuite} (offer : Offer suite) : VerifiedPeer :=
  ⟨offer.proof.agentId, offer.proof.x25519Pub, offer.proof.createdAtMs⟩

def Offer.verify {suite : LanSuite} (offer : Offer suite)
    (peerPubkeyLookup : AgentId → Option Bytes) : Except ChatError Unit :=
  verifyPeerBinding suite offer.hs offer.proof offer.signedHash peerPubkeyLookup

def finishInitiator (stream : Stream) (me : LanLocal) (offer : Offer suite) :
    Except ChatError (BoundChannel suite) := do
  let payload ← bindingPayload suite me (suite.snow.handshakeHash offer.hs)
  let third ← (suite.snow.writeMessage offer.hs payload).mapError snowErr
  let sent ← writeFrameRaw stream offer.sent third.1
  let channel ← (suite.snow.intoTransportMode third.2).mapError snowErr
  .ok ⟨channel, offer.peer, sent⟩

def runInitiatorBound (stream : Stream) (sent : List Bytes) (prologue : Bytes) (me : LanLocal)
    (peerPubkeyLookup : AgentId → Option Bytes) : Except ChatError (BoundChannel suite) := do
  let offer ← initiatorOffer suite stream sent prologue me
  offer.verify peerPubkeyLookup
  finishInitiator suite stream me offer

def runResponderBound (stream : Stream) (prologue : Bytes) (me : LanLocal)
    (peerPubkeyLookup : AgentId → Option Bytes) : Except ChatError (BoundChannel suite) := do
  let offer ← responderOffer suite stream prologue me
  offer.verify peerPubkeyLookup
  let channel ← (suite.snow.intoTransportMode offer.hs).mapError snowErr
  .ok ⟨channel, offer.peer, offer.sent⟩

def writeAppFrame (stream : Stream) (bound : BoundChannel suite) (plaintext : Bytes) :
    Except ChatError (List Bytes) := do
  let frame ← (suite.snow.sealFrame bound.channel plaintext).mapError snowErr
  writeFrameRaw stream bound.sent frame.1

def readAppFrame (stream : Stream) (sent : List Bytes) (received : Nat)
    (channel : suite.snow.Channel) : Except ChatError (Bytes × suite.snow.Channel) := do
  let frame ← readFrameRaw stream sent received
  (suite.snow.openFrame channel frame).mapError snowErr

end

variable {peerPubkeyLookup : AgentId → Option Bytes}

theorem Offer.verify_eq_ok {offer : Offer suite} (h : offer.verify peerPubkeyLookup = .ok u) :
    ∃ peerPk, peerPubkeyLookup offer.proof.agentId = some peerPk ∧
      SignatureHolds suite.signing peerPk
        (bindSigningBytes offer.proof.agentId offer.proof.x25519Pub offer.proof.createdAtMs
          offer.signedHash) offer.proof.sig := by
  simp only [Offer.verify, verifyPeerBinding, bind_eq_ok, okOr_eq_ok, mlDsaVerify_eq_ok] at h
  obtain ⟨peerPk, known, _, _, _, _, signed⟩ := h
  exact ⟨peerPk, known, signed⟩

theorem runInitiatorBound_eq_ok
    (h : runInitiatorBound suite stream sent prologue me peerPubkeyLookup = .ok bound) :
    ∃ offer, initiatorOffer suite stream sent prologue me = .ok offer ∧
      offer.verify peerPubkeyLookup = .ok () ∧ bound.verified = offer.peer := by
  simp only [runInitiatorBound, bind_eq_ok] at h
  obtain ⟨offer, offered, _, verified, finished⟩ := h
  simp only [finishInitiator, bind_eq_ok] at finished
  obtain ⟨_, _, _, _, _, _, _, _, done⟩ := finished
  cases done
  exact ⟨offer, offered, verified, rfl⟩

theorem runResponderBound_eq_ok
    (h : runResponderBound suite stream prologue me peerPubkeyLookup = .ok bound) :
    ∃ offer, responderOffer suite stream prologue me = .ok offer ∧
      offer.verify peerPubkeyLookup = .ok () ∧ bound.verified = offer.peer := by
  simp only [runResponderBound, bind_eq_ok] at h
  obtain ⟨offer, offered, _, verified, _, _, done⟩ := h
  cases done
  exact ⟨offer, offered, verified, rfl⟩

end Fetchit.Lan
