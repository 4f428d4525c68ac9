import Fetchit.Trust.Types

/-! The issuer's signature over a denylist response. -/
namespace Fetchit.Trust
open Lib Lib.Outcome

structure DenylistToSign where
  etag : String
  generatedAtMs : Nat
  kind : EntryKind
  entries : List DenylistEntry
  deriving DecidableEq

/-- The signature scheme, the binary encoding of what is signed, and the messages of the hex
decoder, which come from outside. -/
structure IssuerScheme where
  publicKey : Bytes → Except String Unit
  signature : Bytes → Except String Unit
  verify (publicKey message signature : Bytes) : Except String Bool
  sign (secretKey message : Bytes) : Except String Bytes
  encode : DenylistToSign → Except String Bytes
  hexError : String → String

def DenylistResponse.toSign (response : DenylistResponse) : DenylistToSign :=
  ⟨response.etag, response.generatedAtMs, response.kind, response.entries⟩

def issuerKeyError (what reason : String) : String := "issuer key: " ++ what ++ reason

def signingBytes (scheme : IssuerScheme) (response : DenylistResponse) : Except String Bytes :=
  (scheme.encode response.toSign).mapError (issuerKeyError "encode: ")

def verifySignature (scheme : IssuerScheme) (response : DenylistResponse)
    (issuerPublicKey : Bytes) : Except String Unit := do
  (scheme.publicKey issuerPublicKey).mapError (issuerKeyError "pk: ")
  let sigBytes ← okOr (Text.hexDecode response.issuerSignatureHex)
    (issuerKeyError "sig hex: " (scheme.hexError response.issuerSignatureHex))
  (scheme.signature sigBytes).mapError (issuerKeyError "sig: ")
  let message ← signingBytes scheme response
  let valid ← (scheme.verify issuerPublicKey message sigBytes).mapError (issuerKeyError "verify: ")
  require valid (issuerKeyError "signature mismatch" "")

def exampleScheme : IssuerScheme where
  publicKey := fun _ => .ok ()
  signature := fun _ => .ok ()
  verify := fun publicKey message signature => .ok (signature == publicKey ++ message)
  sign := fun secretKey message => .ok (secretKey ++ message)
  encode := fun toSign => .ok [UInt8.ofNat toSign.generatedAtMs]
  hexError := id

end Fetchit.Trust
