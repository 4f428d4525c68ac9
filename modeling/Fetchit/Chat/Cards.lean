import Fetchit.Chat.Registry
import Fetchit.Fedi.Json
import Fetchit.Lib.Scan
import Fetchit.Proto.PairRecord

/-! Where contact cards come from: a share URI, the pair record that a relay serves, or the profile
record behind a share link. Each source has checks of its own, and all of them end in one merge
with the card on disk, field by field. -/
namespace Fetchit.Chat
open Lib Lib.Outcome Proto.Identity Proto.PairRecord Fedi.Json

structure SignedCardBody where
  x0xCardCanonicalJson : Bytes
  version : Nat
  kemPublicKeyB64 : String
  agentPublicKeyB64 : String
  deriving DecidableEq

structure CardExtension where
  version : Nat
  kemPublicKeyB64 : String
  agentPublicKeyB64 : String
  signatureB64 : String
  deriving DecidableEq

structure ProfileIndexRecord where
  agentId : String
  profileAddr : String
  kemPubkey : String
  mlDsaPubkey : String
  issuedAtMs : Nat
  sig : String
  deriving DecidableEq

/-- The decoders and encoders from outside. `inflate` reads at most the given number of bytes, and
`jcs` encodes a profile record without its signature. -/
structure CardFormats where
  verifier : Verifier
  base64Url : String → Except String Bytes
  hexError : String → String
  inflate (limit : Nat) (bytes : Bytes) : Except String Bytes
  parseJson : Bytes → Except String Value
  parseHints : Value → Option (Nat × Value)
  parseRelays : Value → Except String (List String)
  canonicalJson : Value → Except ChatError Bytes
  postcard : SignedCardBody → Except String Bytes
  jcs : ProfileIndexRecord → Except String Bytes

inductive PairError where
  | http (reason : String)
  | relayStatus (status : Nat)
  | decode (reason : String)
  | agentIdMismatch
  | derivationMismatch
  | tombstoned
  | sigVerifyFailed
  | fieldDecode (reason : String)
  | pqc (reason : String)
  | pairRecordVerify (reason : String)
  | relayBlocked (reason : String)
  deriving DecidableEq

def PairError.display : PairError → String
  | .http reason => s!"relay fetch: {reason}"
  | .relayStatus status => s!"relay returned {status}"
  | .decode reason => s!"relay response: {reason}"
  | .agentIdMismatch => "URI agent_id does not match relay record"
  | .derivationMismatch => "relay record's pubkey doesn't derive its claimed agent_id"
  | .tombstoned => "offerer's profile was tombstoned"
  | .sigVerifyFailed => "signature verification failed"
  | .fieldDecode reason => s!"field decode: {reason}"
  | .pqc reason => s!"pqc: {reason}"
  | .pairRecordVerify reason => s!"pair record verify: {reason}"
  | .relayBlocked reason => s!"relay blocked: {reason}"

def PairError.toChatError (error : PairError) : ChatError := .invalid error.display

def uriPrefix : String := "x0x://agent/"

def cardVersion : Nat := 1

def formatTagDeflate : UInt8 := 0x02

def maxDecompressedBytes : Nat := 256 * 1024

def maxBodyBytes : Nat := 64 * 1024

def signDomainCard : String := "fetchit-chat/v1/card"

def signDomainProfile : String := "fetchit/profile-manifest/v1"

def allZerosProfileAddr : String :=
  "0000000000000000000000000000000000000000000000000000000000000000"

def RendezvousHintsV1.fromValue (formats : CardFormats) (value : Value) :
    Except ChatError RendezvousHintsV1 := do
  let relays ← (formats.parseRelays value).mapError fun e => .invalid s!"hints decode: {e}"
  require (!relays.isEmpty) (.invalid "hints.relays empty")
  require (relays.length ≤ maxHintRelays) (.invalid s!"hints.relays >{maxHintRelays}")
  relays.forM fun url => do
    require (url.utf8ByteSize ≤ maxHintUrlLen) (.invalid "hints url too long")
    require (Text.startsWith url "wss://") (.invalid s!"hints url scheme not wss: {url}")
  .ok ⟨relays⟩

section
variable (formats : CardFormats)

def shareCardJson (bytes : Bytes) : Except ChatError Bytes :=
  match bytes with
  | [] => .ok []
  | tag :: rest =>
    if tag = formatTagDeflate then do
      let out ← (formats.inflate (maxDecompressedBytes + 1) rest).mapError fun e =>
        .invalid s!"deflate read: {e}"
      require (out.length ≤ maxDecompressedBytes)
        (.invalid s!"share card decompresses past {maxDecompressedBytes} bytes")
      .ok out
    else .ok (tag :: rest)

def extendedCardFromUri (uri : String) : Except ChatError Value := do
  let body ← okOr (Scan.stripStart uri uriPrefix) (.invalid "not an x0x://agent/ URI")
  let bytes ← (formats.base64Url body).mapError fun e => .invalid s!"base64: {e}"
  require (bytes.length ≤ maxBodyBytes)
    (.invalid s!"share card body too large: {bytes.length} > {maxBodyBytes}")
  let jsonBytes ← shareCardJson formats bytes
  (formats.parseJson jsonBytes).mapError fun e => .invalid s!"card from_slice: {e}"

def fetchitSlots : List String :=
  ["fetchit_card_version", "fetchit_kem_public_key_b64", "fetchit_agent_public_key_b64",
    "fetchit_card_signature_b64", "fetchit_rendezvous_hints"]

def asObject : Value → Option (List (String × Value))
  | .object entries => some entries
  | _ => none

def decodeB64 (label text : String) : Except ChatError Bytes :=
  okOr (Base64.decode text) (.invalid s!"{label} b64: {formats.verifier.base64Error text}")

def cardSignBytes (body : SignedCardBody) : Except ChatError Bytes := do
  let encoded ← (formats.postcard body).mapError fun e => .invalid s!"postcard: {e}"
  .ok (utf8 signDomainCard ++ encoded)

/-- Checks the signature on the card's keys. The agent id of the card is not compared with the
key; the documentation leaves that to the caller. -/
def verifyCardExtension (card : Value) (agentPublicKey : Bytes) :
    Except ChatError CardExtension := do
  let entries ← okOr (asObject card) (.invalid "card must be a JSON object")
  let version ← okOr ((card.get "fetchit_card_version").bind (decodeUnsigned (2 ^ 64)))
    (.invalid "missing fetchit_card_version")
  require (version == cardVersion) (.invalid s!"unsupported card version: {version}")
  let kemB64 ← okOr ((card.get "fetchit_kem_public_key_b64").bind Value.asStr)
    (.invalid "missing fetchit_kem_public_key_b64")
  let agentPkB64 ← okOr ((card.get "fetchit_agent_public_key_b64").bind Value.asStr)
    (.invalid "missing fetchit_agent_public_key_b64")
  let sigB64 ← okOr ((card.get "fetchit_card_signature_b64").bind Value.asStr)
    (.invalid "missing fetchit_card_signature_b64")
  let x0xOnly := entries.filter fun entry => !fetchitSlots.contains entry.1
  let canonical ← formats.canonicalJson (.object x0xOnly)
  let signBytes ← cardSignBytes formats ⟨canonical, cardVersion, kemB64, agentPkB64⟩
  let signature ← decodeB64 formats "sig" sigB64
  mlDsaVerify formats.verifier.crypto agentPublicKey (agentSignInput signBytes) signature
  .ok ⟨cardVersion, kemB64, agentPkB64, sigB64⟩

def cardKeyB64 (card : Value) : Option String :=
  (((card.get "fetchit_agent_public_key_b64").or (card.get "public_key_b64")).or
    (card.get "agent_public_key_b64")).bind Value.asStr

def cardKem (card : Value) : Except ChatError String :=
  match cardKeyB64 card with
  | some agentPkB64 => do
      let agentPk ← decodeB64 formats "agent pk" agentPkB64
      let extension ← verifyCardExtension formats card agentPk
      .ok extension.kemPublicKeyB64
  | none =>
    okOr ((card.get "fetchit_kem_public_key_b64").bind Value.asStr)
      (.invalid "card missing fetchit_kem_public_key_b64")

def cardHints (card : Value) : Option RendezvousHintsV1 := do
  let slot ← card.get "fetchit_rendezvous_hints"
  let (version, data) ← formats.parseHints slot
  if version = 1 then (RendezvousHintsV1.fromValue formats data).toOption else none

def StoredContactCard.fromShareUri (uri : String) : Except ChatError StoredContactCard := do
  let card ← extendedCardFromUri formats uri
  let _ ← okOr (asObject card) (.invalid "share card must be a JSON object")
  let agentIdHex ← okOr ((card.get "agent_id").bind Value.asStr)
    (.invalid "share card missing agent_id")
  let kemPublicKeyB64 ← cardKem formats card
  .ok {
    agentIdHex := agentIdHex
    displayName := ((card.get "display_name").bind Value.asStr).getD ""
    kemPublicKeyB64 := kemPublicKeyB64
    agentPublicKeyB64 := cardKeyB64 card
    rendezvousHints := cardHints formats card
    lastHintEpochMs := none
    userIdHex := (card.get "user_id").bind Value.asStr }

end

/-- What an import keeps of the card on disk: its relays once they have a watermark, and every
field that the imported card leaves empty. -/
def StoredContactCard.merge (incoming existing : StoredContactCard) : StoredContactCard :=
  { incoming with
    lastHintEpochMs := existing.lastHintEpochMs.or incoming.lastHintEpochMs
    rendezvousHints :=
      if existing.lastHintEpochMs.isSome then existing.rendezvousHints
      else incoming.rendezvousHints
    agentPublicKeyB64 :=
      if (incoming.agentPublicKeyB64.getD "").isEmpty &&
          existing.agentPublicKeyB64.any (!·.isEmpty) then existing.agentPublicKeyB64
      else incoming.agentPublicKeyB64
    kemPublicKeyB64 :=
      if incoming.kemPublicKeyB64.isEmpty && !existing.kemPublicKeyB64.isEmpty then
        existing.kemPublicKeyB64
      else incoming.kemPublicKeyB64
    displayName :=
      if incoming.displayName.isEmpty && !existing.displayName.isEmpty then existing.displayName
      else incoming.displayName
    userIdHex := incoming.userIdHex.or existing.userIdHex }

theorem StoredContactCard.kemPublicKeyB64_merge (incoming existing : StoredContactCard) :
    (incoming.merge existing).kemPublicKeyB64 =
      if incoming.kemPublicKeyB64 = "" then existing.kemPublicKeyB64
      else incoming.kemPublicKeyB64 := by
  unfold merge
  by_cases mine : incoming.kemPublicKeyB64 = ""
  · by_cases theirs : existing.kemPublicKeyB64 = "" <;> simp [mine]
  · simp [mine]

theorem StoredContactCard.agentPublicKeyB64_merge (incoming existing : StoredContactCard) :
    (incoming.merge existing).agentPublicKeyB64 = incoming.agentPublicKeyB64 ∨
      (incoming.merge existing).agentPublicKeyB64 = existing.agentPublicKeyB64 := by
  unfold merge
  dsimp only
  split
  · exact .inr rfl
  · exact .inl rfl

def StoredContactCard.mergeFound (card : StoredContactCard) :
    Option StoredContactCard → StoredContactCard
  | none => card
  | some existing => card.merge existing

theorem StoredContactCard.agentIdHex_mergeFound (card : StoredContactCard)
    (existing : Option StoredContactCard) :
    (card.mergeFound existing).agentIdHex = card.agentIdHex := by
  cases existing <;> rfl

theorem StoredContactCard.load_insert (contacts : Contacts) (agentIdHex other : String)
    (card : StoredContactCard) :
    load (contacts.insert agentIdHex (.ok card)) other =
      if other = agentIdHex then .ok (some card) else load contacts other := by
  unfold load
  rw [Registry.lookup_insert]
  by_cases here : other = agentIdHex
  · rw [if_pos here, if_pos here]
  · rw [if_neg here, if_neg here]

def StoredContactCard.save (card : StoredContactCard) (contacts : Contacts)
    (fault : Option ChatError) : Except ChatError Unit × Contacts :=
  match fault with
  | some error => (.error error, contacts)
  | none => (.ok (), contacts.insert card.agentIdHex (.ok card))

def StoredContactCard.saveImported (card : StoredContactCard) (contacts : Contacts)
    (fault : Option ChatError) : Except ChatError Unit × Contacts :=
  match load contacts card.agentIdHex with
  | .error error => (.error error, contacts)
  | .ok existing => (card.mergeFound existing).save contacts fault

theorem saveImported_cases (card : StoredContactCard) (contacts : Contacts)
    (fault : Option ChatError) :
    (card.saveImported contacts fault).2 = contacts ∨
      ∃ existing, StoredContactCard.load contacts card.agentIdHex = .ok existing ∧
        (card.saveImported contacts fault).2 =
          contacts.insert card.agentIdHex (.ok (card.mergeFound existing)) := by
  unfold StoredContactCard.saveImported
  cases StoredContactCard.load contacts card.agentIdHex with
  | error error => exact .inl rfl
  | ok existing =>
    cases fault with
    | some error => exact .inl rfl
    | none =>
      refine .inr ⟨existing, rfl, ?_⟩
      simp only [StoredContactCard.save, StoredContactCard.agentIdHex_mergeFound]

def cardFromPairRecord (record : PairRecordV1) : StoredContactCard where
  agentIdHex := record.agentIdHex
  displayName := ""
  kemPublicKeyB64 := record.kemPubkeyB64
  agentPublicKeyB64 := some record.mlDsaPubkeyB64
  rendezvousHints :=
    if record.advertisedRelays.isEmpty then none else some ⟨record.advertisedRelays⟩
  lastHintEpochMs := some record.issuedAtMs
  userIdHex := none

def recordIntoStoredContact (record : ProfileIndexRecord) : StoredContactCard where
  agentIdHex := record.agentId
  displayName := ""
  kemPublicKeyB64 := record.kemPubkey
  agentPublicKeyB64 := some record.mlDsaPubkey
  rendezvousHints := none
  lastHintEpochMs := none
  userIdHex := none

/-- The card files, and the newest pair record seen of each agent. -/
structure CardStore where
  contacts : Contacts
  watermarks : Map String Nat

def CardStore.empty : CardStore := ⟨∅, ∅⟩

def observeExternalWatermark (watermarks : Map String Nat) (agentIdHex : String)
    (observedMs : Nat) (fault : Bool) : Map String Nat :=
  if observedMs = 2 ^ 64 - 1 ∨ observedMs ≤ (watermarks.lookup agentIdHex).getD 0 ∨
      fault = true then watermarks
  else watermarks.insert agentIdHex observedMs

section
variable (formats : CardFormats)

def fetchPairRecordById (agentIdHex : String) (reply : Except PairError PairRecordV1) :
    Except PairError PairRecordV1 := do
  let record ← reply
  (verifyPairRecord formats.verifier record).mapError fun e => .pairRecordVerify e.display
  require (record.agentIdHex == agentIdHex) .agentIdMismatch
  .ok record

def resolveAndPersistMemberCard (store : CardStore) (agentIdHex : String)
    (reply : Except PairError PairRecordV1) (fault : Option ChatError) (watermarkFault : Bool) :
    Except ChatError Bool × CardStore :=
  match fetchPairRecordById formats agentIdHex reply with
  | .error _ => (.ok false, store)
  | .ok record =>
    if record.issuedAtMs < (store.watermarks.lookup agentIdHex).getD 0 then (.ok false, store)
    else
      match (cardFromPairRecord record).saveImported store.contacts fault with
      | (.error error, contacts) => (.error error, { store with contacts := contacts })
      | (.ok (), contacts) =>
        (.ok true, ⟨contacts, observeExternalWatermark store.watermarks agentIdHex
          record.issuedAtMs watermarkFault⟩)

def firstPairRecord (agentIdHex : String) :
    List (Except String (Except PairError PairRecordV1)) → String → Except ChatError PairRecordV1
  | [], lastErr => .error (.invalid s!"could not reach any of their relays: {lastErr}")
  | .error e :: _, _ => .error (.invalid s!"relay URL in pair URI: {e}")
  | .ok reply :: rest, _ =>
    match fetchPairRecordById formats agentIdHex reply with
    | .ok record => .ok record
    | .error e => firstPairRecord agentIdHex rest e.display

def importPairUri (store : CardStore) (agentIdHex : String)
    (relays : List (Except String (Except PairError PairRecordV1))) (fault : Option ChatError) :
    Except ChatError Unit × CardStore :=
  match firstPairRecord formats agentIdHex relays "" with
  | .error error => (.error error, store)
  | .ok record =>
    let saved := (cardFromPairRecord record).saveImported store.contacts fault
    (saved.1, { store with contacts := saved.2 })

def canonicalBytesSansSig (record : ProfileIndexRecord) : Except PairError Bytes :=
  (formats.jcs { record with sig := "" }).mapError fun e => .decode s!"jcs: {e}"

def decodeUrlField (label text : String) : Except PairError Bytes :=
  (formats.base64Url text).mapError fun e => .fieldDecode s!"{label} b64: {e}"

def verifyIndexRecord (record : ProfileIndexRecord) : Except PairError Bytes := do
  require (record.profileAddr != allZerosProfileAddr) .tombstoned
  let pubkey ← decodeUrlField formats "ml_dsa_pubkey" record.mlDsaPubkey
  let signature ← decodeUrlField formats "sig" record.sig
  let embedded ← okOr (Text.hexDecode record.agentId)
    (.fieldDecode s!"agent_id hex: {formats.hexError record.agentId}")
  require (embedded.length == 32)
    (.fieldDecode s!"agent_id: expected 32 bytes, got {embedded.length}")
  require ((deriveAgentId formats.verifier.crypto pubkey).toList == embedded) .derivationMismatch
  let canonical ← canonicalBytesSansSig formats record
  verifySignature formats.verifier.crypto .pqc .pqc .pqc .sigVerifyFailed pubkey
    (agentSignInput (utf8 signDomainProfile ++ canonical)) signature
  .ok pubkey

def fetchIndexRecordById (agentId : String) (reply : Except PairError ProfileIndexRecord) :
    Except PairError ProfileIndexRecord := do
  let record ← reply
  require (record.profileAddr != allZerosProfileAddr) .tombstoned
  let _ ← verifyIndexRecord formats record
  require (record.agentId == agentId) .agentIdMismatch
  .ok record

def pairAccept (store : CardStore) (agentId : String)
    (reply : Except PairError ProfileIndexRecord) (fault : Option ChatError) :
    Except ChatError ProfileIndexRecord × CardStore :=
  match fetchIndexRecordById formats agentId reply with
  | .error error => (.error error.toChatError, store)
  | .ok record =>
    match (recordIntoStoredContact record).saveImported store.contacts fault with
    | (.error error, contacts) => (.error error, { store with contacts := contacts })
    | (.ok (), contacts) => (.ok record, { store with contacts := contacts })

def importShareUri (store : CardStore) (uri : String) (fault : Option ChatError) :
    Except ChatError Unit × CardStore :=
  match StoredContactCard.fromShareUri formats uri with
  | .error error => (.error error, store)
  | .ok card =>
    let saved := card.saveImported store.contacts fault
    (saved.1, { store with contacts := saved.2 })

end

end Fetchit.Chat
