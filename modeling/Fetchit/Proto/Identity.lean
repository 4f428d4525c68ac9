import Fetchit.Lib.Outcome
import Fetchit.Lib.Text

/-! Agent identities. An agent id is the hash of an ML-DSA-65 public key under a
fixed domain, and an agent key signs only framed messages. -/
namespace Fetchit.Proto.Identity
open Lib Lib.Outcome

abbrev AgentId := Vector UInt8 32

/-- The hash and signature primitives. Keys and signatures are byte strings that
their parsers may refuse; a verification may refuse, fail, or answer. -/
structure Crypto where
  sha256 : Bytes → Vector UInt8 32
  parsePublicKey : Bytes → Except String Unit
  parseSignature : Bytes → Except String Unit
  verify (publicKey message signature : Bytes) : Except String Bool

def agentIdDomain : String := "AUTONOMI_PEER_ID_V2:"

def deriveAgentId (crypto : Crypto) (publicKey : Bytes) : AgentId :=
  crypto.sha256 (utf8 agentIdDomain ++ publicKey)

def userIdDomain : String := "fetchit-user-id-v1:"

def deriveUserId (crypto : Crypto) (publicKey : Bytes) : Vector UInt8 32 :=
  crypto.sha256 (utf8 userIdDomain ++ publicKey)

def hexId (id : AgentId) : String := Text.hexEncode id.toList

theorem hexId_injective (h : hexId first = hexId second) :
    first = second := by
  apply Vector.toList_inj.mp
  exact Text.hexEncode_injective h

def agentSignNamespaceTag : UInt8 := 0xF0

def agentSignMagic : String := "x0x.external-agent-sign.v1"

def agentSignContext : String := "fetchit.agent-sign.v1"

def assembleAgentSignBuffer (context : String) (payload : Bytes) : Bytes :=
  agentSignNamespaceTag :: utf8 agentSignMagic ++ bigEndian 4 (utf8 context).length ++
    utf8 context ++ payload

def agentSignInput (message : Bytes) : Bytes :=
  assembleAgentSignBuffer agentSignContext message

theorem agentSignInput_injective
    (h : agentSignInput first = agentSignInput second) : first = second :=
  List.append_cancel_left h

/-- The checks every verifier of an agent-key signature makes before it trusts
the signature: both byte strings parse, and the verification answers true. -/
def SignatureHolds (crypto : Crypto) (publicKey message signature : Bytes) : Prop :=
  crypto.parsePublicKey publicKey = .ok () ∧ crypto.parseSignature signature = .ok () ∧
    crypto.verify publicKey (agentSignInput message) signature = .ok true

/-- The check of a signature, with the errors of its steps. -/
def verifySignature {ε : Type} (crypto : Crypto) (badKey badSignature backend : String → ε)
    (invalid : ε) (publicKey input signature : Bytes) : Except ε Unit := do
  (crypto.parsePublicKey publicKey).mapError badKey
  (crypto.parseSignature signature).mapError badSignature
  let ok ← (crypto.verify publicKey input signature).mapError backend
  require ok invalid

theorem verifySignature_eq_ok :
    verifySignature crypto badKey badSignature backend invalid publicKey input signature = .ok u ↔
      crypto.parsePublicKey publicKey = .ok () ∧ crypto.parseSignature signature = .ok () ∧
        crypto.verify publicKey input signature = .ok true := by
  simp only [verifySignature, bind_eq_ok, mapError_eq_ok, require_eq_ok]
  constructor
  · rintro ⟨_, hkey, _, hsig, ok, hok, rfl⟩
    exact ⟨hkey, hsig, hok⟩
  · rintro ⟨hkey, hsig, hok⟩
    exact ⟨(), hkey, (), hsig, true, hok, rfl⟩

/-- Ideal primitives: a signature names its key and verifies for the messages that the
key has signed, and a digest is the last 32 bytes. -/
def idealCrypto (signed : List (Bytes × Bytes)) : Crypto where
  sha256 bytes := Vector.ofFn fun i => bytes.reverse.getD i 0
  parsePublicKey _ := .ok ()
  parseSignature _ := .ok ()
  verify publicKey message signature :=
    .ok (signature == publicKey && signed.contains (publicKey, message))

theorem idealCrypto_holds_iff :
    SignatureHolds (idealCrypto signed) key message signature ↔
      signature = key ∧ (key, agentSignInput message) ∈ signed := by
  simp [SignatureHolds, idealCrypto]

end Fetchit.Proto.Identity
