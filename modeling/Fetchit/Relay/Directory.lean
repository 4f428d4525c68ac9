import Fetchit.Lib.Ratchet
import Fetchit.Proto.PairRecord

/-! The relay's directory: signed records that agents publish about themselves, kept in memory
in four maps that take a record only when it is newer than the stored one, and that a sweeper
empties of old records. -/
namespace Fetchit.Relay.Directory
open Lib Lib.Outcome Proto.Identity Proto.PairRecord

structure StoredForwarding where
  record : ForwardingRecordV1
  storedAtMs : Nat
  deriving DecidableEq

structure ForwardingIndex where
  byAgent : String → Option StoredForwarding

def maxForwardingBodyBytes : Nat := 8 * 1024

def forwardingTtlMs : Nat := 30 * 24 * 60 * 60 * 1000

namespace ForwardingIndex

def getLive (index : ForwardingIndex) (agentIdHex : String) (nowMs : Nat) :
    Option ForwardingRecordV1 :=
  (index.byAgent agentIdHex).bind fun stored =>
    if nowMs - stored.storedAtMs > forwardingTtlMs then none else some stored.record

def putIfNewer (index : ForwardingIndex) (record : ForwardingRecordV1) (nowMs : Nat) :
    Except Nat ForwardingIndex :=
  (Ratchet.putIfNewer (·.record.agentIdHex) (·.record.issuedAtMs) index.byAgent
    ⟨record, nowMs⟩).map mk

def sweepExpired (index : ForwardingIndex) (nowMs : Nat) : ForwardingIndex :=
  ⟨Ratchet.retain (fun stored => nowMs - stored.storedAtMs ≤ forwardingTtlMs) index.byAgent⟩

end ForwardingIndex

structure PairRecordIndex where
  byAgent : String → Option PairRecordV1
  byUser : String → Option PairRecordV4

def maxPairRecordBodyBytes : Nat := 16 * 1024

def maxPairRecordV4BodyBytes : Nat := 128 * 1024

namespace PairRecordIndex

def get (index : PairRecordIndex) (agentIdHex : String) : Option PairRecordV1 :=
  index.byAgent agentIdHex

def getV4 (index : PairRecordIndex) (userIdHex : String) : Option PairRecordV4 :=
  index.byUser userIdHex

def putIfNewer (index : PairRecordIndex) (record : PairRecordV1) : Except Nat PairRecordIndex :=
  (Ratchet.putIfNewer (·.agentIdHex) (·.issuedAtMs) index.byAgent record).map
    fun byAgent => { index with byAgent := byAgent }

def putIfNewerV4 (index : PairRecordIndex) (record : PairRecordV4) :
    Except Nat PairRecordIndex :=
  (Ratchet.putIfNewer (·.userIdHex) (·.revision) index.byUser record).map
    fun byUser => { index with byUser := byUser }

/-- Both maps age a record by the time its issuer wrote into it. -/
def sweepExpired (index : PairRecordIndex) (nowMs ttlMs : Nat) : PairRecordIndex :=
  ⟨Ratchet.retain (fun record => nowMs - record.issuedAtMs ≤ ttlMs) index.byAgent,
    Ratchet.retain (fun record => nowMs - record.issuedAtMs ≤ ttlMs) index.byUser⟩

end PairRecordIndex

structure ProfileIndexRecord where
  agentId : String
  profileAddr : String
  kemPubkey : String
  mlDsaPubkey : String
  issuedAtMs : Nat
  sig : String
  deriving DecidableEq

structure ProfileIndex where
  byAgent : String → Option ProfileIndexRecord

def maxProfileBodyBytes : Nat := 32 * 1024

def mlKem768PubkeyLen : Nat := 1184

def mlDsa65PubkeyLen : Nat := 1952

def signDomainProfile : String := "fetchit/profile-manifest/v1"

namespace ProfileIndex

def putIfNewer (index : ProfileIndex) (record : ProfileIndexRecord) : Except Nat ProfileIndex :=
  (Ratchet.putIfNewer (·.agentId) (·.issuedAtMs) index.byAgent record).map mk

def sweepExpired (index : ProfileIndex) (nowMs ttlMs : Nat) : ProfileIndex :=
  ⟨Ratchet.retain (fun record => nowMs - record.issuedAtMs ≤ ttlMs) index.byAgent⟩

end ProfileIndex

structure ServerState where
  forwarding : ForwardingIndex
  pairRecords : PairRecordIndex
  profiles : ProfileIndex

def ServerState.empty : ServerState := ⟨⟨fun _ => none⟩, ⟨fun _ => none, fun _ => none⟩,
  ⟨fun _ => none⟩⟩

/-- What the handlers take from outside: record verification, the encodings of a profile, its
signature check, and the configured lifetimes. -/
structure Environment where
  verifier : Verifier
  decodeBase64Url : String → Option Bytes
  canonicalBytesSansSig : ProfileIndexRecord → Except String Bytes
  verifyMlDsa65 (publicKey message signature : Bytes) : Bool
  profileTtlMs : Nat
  pairRecordTtlMs : Nat

/-- A request body: its size, and the record that the JSON parser reads in it. -/
structure Body (Record : Type) where
  length : Nat
  record : Option Record

inductive ErrorBody where
  | currentIssuedAtMs (value : Nat)
  | currentRevision (value : Nat)
  | message (text : String)
  deriving DecidableEq

def verifyStatus : PairRecordError → Nat
  | .agentIdMismatch | .userIdMismatch | .signatureInvalid => 403
  | .verifyBackend _ => 500
  | _ => 400

inductive PairRecordHttpError where
  | bodyTooLarge
  | malformed (why : String)
  | verify (error : PairRecordError)
  | rateLimited
  | nonMonotonic (currentIssuedAtMs : Nat)
  | nonMonotonicRevision (currentRevision : Nat)
  deriving DecidableEq

namespace PairRecordHttpError

def status : PairRecordHttpError → Nat
  | .bodyTooLarge => 413
  | .malformed _ => 400
  | .rateLimited => 429
  | .nonMonotonic _ | .nonMonotonicRevision _ => 409
  | .verify error => verifyStatus error

def jsonBody : PairRecordHttpError → ErrorBody
  | .nonMonotonic current => .currentIssuedAtMs current
  | .nonMonotonicRevision current => .currentRevision current
  | .bodyTooLarge => .message "pair-record body too large"
  | .rateLimited => .message "per-sender publish rate exceeded"
  | .malformed why => .message why
  | .verify error => .message error.display

end PairRecordHttpError

inductive ForwardingHttpError where
  | bodyTooLarge
  | malformed (why : String)
  | noPairRecord
  | storedKeyUndecodable
  | verify (error : PairRecordError)
  | rateLimited
  | nonMonotonic (currentIssuedAtMs : Nat)
  deriving DecidableEq

inductive ProfileError where
  | bodyTooLarge
  | malformed (why : String)
  | agentIdMismatch
  | sigVerifyFailed
  | nonMonotonic
  deriving DecidableEq

def agentIdFromHex {Error : Type} (malformed : String → Error) (text : String) :
    Except Error Bytes := do
  let raw ← okOr (Text.hexDecode text) (malformed "agent_id_hex not hex")
  require (raw.length == 32) (malformed "agent_id_hex wrong length")
  .ok raw

section
variable (env : Environment)

def postPairRecord (state : ServerState) (body : Body PairRecordV1) (allowed : Bool) :
    Except PairRecordHttpError ServerState := do
  require (body.length ≤ maxPairRecordBodyBytes) .bodyTooLarge
  let record ← okOr body.record (.malformed "invalid JSON body")
  (verifyPairRecord env.verifier record).mapError .verify
  let _ ← agentIdFromHex .malformed record.agentIdHex
  require allowed .rateLimited
  let pairRecords ← (state.pairRecords.putIfNewer record).mapError .nonMonotonic
  .ok { state with pairRecords := pairRecords }

def postPairRecordV4 (state : ServerState) (body : Body PairRecordV4) (allowed : Bool) :
    Except PairRecordHttpError ServerState := do
  require (body.length ≤ maxPairRecordV4BodyBytes) .bodyTooLarge
  let record ← okOr body.record (.malformed "invalid JSON body")
  (verifyPairRecordV4 env.verifier record).mapError .verify
  let _ ← agentIdFromHex .malformed record.userIdHex
  require allowed .rateLimited
  let pairRecords ← (state.pairRecords.putIfNewerV4 record).mapError .nonMonotonicRevision
  .ok { state with pairRecords := pairRecords }

def lookupForwarding (state : ServerState) (body : Body ForwardingRecordV1) :
    Except ForwardingHttpError (ForwardingRecordV1 × Bytes) := do
  require (body.length ≤ maxForwardingBodyBytes) .bodyTooLarge
  let record ← okOr body.record (.malformed "invalid JSON body")
  let pair ← okOr (state.pairRecords.get (Text.asciiLower record.agentIdHex)) .noPairRecord
  let pubkey ← okOr (Base64.decode pair.mlDsaPubkeyB64) .storedKeyUndecodable
  .ok (record, pubkey)

/-- The second half: the pair record is not looked at again. -/
def storeForwarding (state : ServerState) (record : ForwardingRecordV1) (pubkey : Bytes)
    (allowed : Bool) (nowMs : Nat) : Except ForwardingHttpError ServerState := do
  (verifyForwardingRecord env.verifier record pubkey).mapError .verify
  let _ ← agentIdFromHex .malformed record.agentIdHex
  require allowed .rateLimited
  let forwarding ← (state.forwarding.putIfNewer record nowMs).mapError .nonMonotonic
  .ok { state with forwarding := forwarding }

/-- The second half of a forwarding read: the pointer is withheld when the agent's pair record
is newer. -/
def unsuperseded (pairRecords : PairRecordIndex) (agentIdHex : String)
    (forwarding : ForwardingRecordV1) : Option ForwardingRecordV1 :=
  match pairRecords.get agentIdHex with
  | some pair => if pair.issuedAtMs > forwarding.issuedAtMs then none else some forwarding
  | none => some forwarding

def getLiveUnsuperseded (state : ServerState) (agentIdHex : String) (nowMs : Nat) :
    Option ForwardingRecordV1 := do
  let forwarding ← state.forwarding.getLive agentIdHex nowMs
  unsuperseded state.pairRecords agentIdHex forwarding

def decodeProfileField (name text : String) : Except ProfileError Bytes :=
  okOr (env.decodeBase64Url text) (.malformed (name ++ ": not base64url-no-pad"))

def verifyRecord (record : ProfileIndexRecord) : Except ProfileError Unit := do
  let pubkey ← decodeProfileField env "ml_dsa_pubkey" record.mlDsaPubkey
  require (pubkey.length == mlDsa65PubkeyLen)
    (.malformed "ml_dsa_pubkey: must be exactly 1952 bytes raw")
  let kemPubkey ← decodeProfileField env "kem_pubkey" record.kemPubkey
  require (kemPubkey.length == mlKem768PubkeyLen)
    (.malformed "kem_pubkey: must be exactly 1184 bytes raw")
  let signature ← decodeProfileField env "sig" record.sig
  let agentId ← okOr (Text.hexDecode record.agentId) (.malformed "agent_id: not 64-hex")
  require (agentId.length == 32) (.malformed "agent_id: must be 32 bytes")
  require ((deriveAgentId env.verifier.crypto pubkey).toList == agentId) .agentIdMismatch
  let canonical ← (env.canonicalBytesSansSig record).mapError .malformed
  require (env.verifyMlDsa65 pubkey (agentSignInput (utf8 signDomainProfile ++ canonical))
    signature) .sigVerifyFailed

def postProfile (state : ServerState) (body : Body ProfileIndexRecord) :
    Except ProfileError ServerState := do
  require (body.length ≤ maxProfileBodyBytes) .bodyTooLarge
  let record ← okOr body.record (.malformed "invalid JSON body")
  verifyRecord env record
  let profiles ← (state.profiles.putIfNewer record).mapError fun _ => .nonMonotonic
  .ok { state with profiles := profiles }

end

section
variable {env : Environment} {state next : ServerState}

variable {allowed : Bool}

theorem postPairRecord_ok {body : Body PairRecordV1}
    (h : postPairRecord env state body allowed = .ok next) :
    ∃ record pairRecords, body.record = some record ∧
      state.pairRecords.putIfNewer record = .ok pairRecords ∧
      next = { state with pairRecords := pairRecords } := by
  unfold postPairRecord at h
  simp only [bind_eq_ok, okOr_eq_ok, mapError_eq_ok, Except.ok.injEq] at h
  obtain ⟨_, _, record, parsed, _, _, _, _, _, _, pairRecords, put, rfl⟩ := h
  exact ⟨record, pairRecords, parsed, put, rfl⟩

theorem postPairRecordV4_ok {body : Body PairRecordV4}
    (h : postPairRecordV4 env state body allowed = .ok next) :
    ∃ record pairRecords, body.record = some record ∧
      state.pairRecords.putIfNewerV4 record = .ok pairRecords ∧
      next = { state with pairRecords := pairRecords } := by
  unfold postPairRecordV4 at h
  simp only [bind_eq_ok, okOr_eq_ok, mapError_eq_ok, Except.ok.injEq] at h
  obtain ⟨_, _, record, parsed, _, _, _, _, _, _, pairRecords, put, rfl⟩ := h
  exact ⟨record, pairRecords, parsed, put, rfl⟩

theorem postProfile_ok {body : Body ProfileIndexRecord}
    (h : postProfile env state body = .ok next) :
    ∃ record profiles, body.record = some record ∧
      state.profiles.putIfNewer record = .ok profiles ∧
      next = { state with profiles := profiles } ∧ verifyRecord env record = .ok () := by
  unfold postProfile at h
  simp only [bind_eq_ok, okOr_eq_ok, mapError_eq_ok, Except.ok.injEq] at h
  obtain ⟨_, _, record, parsed, _, verified, profiles, put, rfl⟩ := h
  exact ⟨record, profiles, parsed, put, rfl, verified⟩

theorem storeForwarding_ok (h : storeForwarding env state record pubkey allowed nowMs = .ok next) :
    verifyForwardingRecord env.verifier record pubkey = .ok () ∧ ∃ forwarding,
      state.forwarding.putIfNewer record nowMs = .ok forwarding ∧
      next = { state with forwarding := forwarding } := by
  unfold storeForwarding at h
  simp only [bind_eq_ok, mapError_eq_ok, Except.ok.injEq] at h
  obtain ⟨_, verified, _, _, _, _, forwarding, put, rfl⟩ := h
  exact ⟨verified, forwarding, put, rfl⟩

end

def acceptAll : Environment where
  verifier := acceptAllVerifier
  decodeBase64Url _ := none
  canonicalBytesSansSig _ := .error "jcs canonicalisation failed"
  verifyMlDsa65 _ _ _ := true
  profileTtlMs := 10
  pairRecordTtlMs := 10

end Fetchit.Relay.Directory
