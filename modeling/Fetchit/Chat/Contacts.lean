import Fetchit.Chat.Crypto

/-! Contact cards, and the relay hints and attachments a message may carry. -/
namespace Fetchit.Chat
open Lib Lib.Outcome

inductive FileError (ε : Type) where
  | unreadable (error : ε)
  | malformed (reason : String)
  deriving DecidableEq

abbrev File (ε α : Type) := Except (FileError ε) α

structure RendezvousHintsV1 where
  relays : List String
  deriving DecidableEq

structure StoredContactCard where
  agentIdHex : String
  displayName : String
  kemPublicKeyB64 : String
  agentPublicKeyB64 : Option String
  rendezvousHints : Option RendezvousHintsV1
  lastHintEpochMs : Option Nat
  userIdHex : Option String
  deriving DecidableEq

abbrev Contacts := Map String (File String StoredContactCard)

def StoredContactCard.load (contacts : Contacts) (agentIdHex : String) :
    Except ChatError (Option StoredContactCard) :=
  match contacts.lookup agentIdHex with
  | none => .ok none
  | some (.error (.unreadable reason)) => .error (.io reason)
  | some (.error (.malformed reason)) => .error (.invalid s!"stored card parse: {reason}")
  | some (.ok card) => .ok (some card)

def maxHintRelays : Nat := 8

def maxHintUrlLen : Nat := 256

def bareIpRelayMigrations : List (String × String) :=
  [("67.207.94.66:8088", "https://nyc-relay.etchit.io"),
    ("159.89.11.217:8088", "https://fra-relay.etchit.io")]

def migrateKnownBareIpRelay (crypto : ChatCrypto) (relay : String) : String :=
  match crypto.urlHostPort relay with
  | none => relay
  | some hostPort => ((bareIpRelayMigrations.find? (·.1 == hostPort)).map (·.2)).getD relay

def applyRelayHint (crypto : ChatCrypto) (contacts : Contacts) (senderAgentIdHex : String)
    (relays : List String) (hintEpochMs : Nat) (fault : Option ChatError) :
    Except ChatError Bool × Contacts :=
  if relays.isEmpty || relays.length > maxHintRelays ||
      relays.any (·.utf8ByteSize > maxHintUrlLen) then (.ok false, contacts)
  else
    match StoredContactCard.load contacts senderAgentIdHex with
    | .error error => (.error error, contacts)
    | .ok none => (.ok false, contacts)
    | .ok (some card) =>
      if hintEpochMs ≤ card.lastHintEpochMs.getD 0 then (.ok false, contacts)
      else
        match fault with
        | some error => (.error error, contacts)
        | none =>
          (.ok true, contacts.insert card.agentIdHex (.ok { card with
            rendezvousHints := some ⟨relays.map (migrateKnownBareIpRelay crypto)⟩
            lastHintEpochMs := some hintEpochMs }))

inductive AttachmentError where
  | disallowedMime (mime : String)
  | zeroDimension
  | invalidBase64
  | tooLarge (rawLen max : Nat)
  deriving DecidableEq

def maxAttachmentBytes : Nat := 256 * 1024

def allowedAttachmentMimes : List String := ["image/jpeg", "image/png", "image/webp", "image/gif"]

def Attachment.validate (attachment : Attachment) : Except AttachmentError Bytes := do
  require (allowedAttachmentMimes.contains attachment.mime) (.disallowedMime attachment.mime)
  require (attachment.width != 0 && attachment.height != 0) .zeroDimension
  let raw ← okOr (Base64.decode attachment.bytesB64) .invalidBase64
  require (raw.length ≤ maxAttachmentBytes) (.tooLarge raw.length maxAttachmentBytes)
  .ok raw

def MessagePayload.stripInvalid (payload : MessagePayload) : MessagePayload :=
  { payload with attachment := payload.attachment.filter fun attachment =>
      match attachment.validate with
      | .ok _ => true
      | .error _ => false }

end Fetchit.Chat
