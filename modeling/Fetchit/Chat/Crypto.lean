import Fetchit.Chat.Types

/-! The cryptographic calls of the chat layer. The primitives and the serialised formats are
parameters; the framings around them are the source's. -/
namespace Fetchit.Chat
open Lib Lib.Outcome Proto.Identity Proto.Envelope

/-- The primitives and parsers. `kemDecapsulate` works with the local KEM secret key, and
`postcard` encodes an envelope. -/
structure ChatCrypto where
  signing : Crypto
  kemDecapsulate : Bytes → Option Bytes
  deriveAeadKey (secret info : Bytes) : Bytes
  aeadOpen (key : Bytes) (nonce : Nonce) (ciphertext aad : Bytes) : Option Bytes
  postcard : TransitEnvelope → Except String Bytes
  parseWelcome : Bytes → Except String WelcomePayload
  parseMessage : Bytes → Except String MessagePayload
  parseReceipt : Bytes → Except String DeliveryReceiptPayload
  base64Error : String → String
  urlHostPort : String → Option String

def aadDomain : String := "lit/v1"

def kdfInfoWelcome : String := "lit/welcome/v1"

def signDomainEnvelope : String := "lit/envelope/v1"

def signDomainLanNoise : String := "fetchit/lan-noise/v1"

def messageAad (groupId : GroupId) (epoch : Nat) : Bytes :=
  utf8 aadDomain ++ groupId.toList ++ bigEndian 4 epoch

def lanBindingBytes (agentId : AgentId) (x25519Pub : Vector UInt8 32) (createdAtMs : Nat) : Bytes :=
  utf8 signDomainLanNoise ++ 1 :: agentId.toList ++ x25519Pub.toList ++ bigEndian 8 createdAtMs

def canonicalEnvelopeBytes (crypto : ChatCrypto) (envelope : TransitEnvelope) :
    Except ChatError Bytes :=
  (crypto.postcard envelope.unsigned).mapError fun error => .invalid s!"postcard: {error}"

def mlDsaVerify (crypto : Crypto) (publicKey message signature : Bytes) :
    Except ChatError Unit :=
  verifySignature crypto (fun error => .invalid s!"ml-dsa pub parse: {error}")
    (fun error => .invalid s!"ml-dsa sig parse: {error}")
    (fun error => .invalid s!"ml-dsa verify: {error}") (.invalid "ml-dsa signature invalid")
    publicKey message signature

theorem mlDsaVerify_eq_ok :
    mlDsaVerify crypto publicKey (agentSignInput message) signature = .ok u ↔
      SignatureHolds crypto publicKey message signature :=
  verifySignature_eq_ok

def envelopeSignBytes (canonical : Bytes) : Bytes := utf8 signDomainEnvelope ++ canonical

/-- Ideal primitives over a signing log. A ciphertext is its key, its associated data and its
plaintext, and every plaintext parses to the given payload. -/
def idealChat (signed : List (Bytes × Bytes)) (welcome : WelcomePayload)
    (message : MessagePayload) (receipt : DeliveryReceiptPayload) : ChatCrypto where
  signing := idealCrypto signed
  kemDecapsulate ciphertext := some ciphertext
  deriveAeadKey secret _ := secret
  aeadOpen key _ ciphertext aad :=
    if (key ++ aad).isPrefixOf ciphertext then some (ciphertext.drop (key ++ aad).length) else none
  postcard envelope := .ok (envelope.nonce ++ envelope.ciphertext)
  parseWelcome _ := .ok welcome
  parseMessage _ := .ok message
  parseReceipt _ := .ok receipt
  base64Error text := text
  urlHostPort _ := none

def parseNonce (bytes : Bytes) : Except ChatError Nonce :=
  if h : bytes.length = 12 then .ok ⟨bytes.toArray, by simpa using h⟩
  else .error (.invalid "nonce length")

end Fetchit.Chat
