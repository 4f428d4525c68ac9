import Fetchit.Chat.Types
import Fetchit.Relay.Directory

/-! The account's device list. A device derives the next list from the record in its own cache,
signs it with the account's user key, caches it, and then posts it; a contact caches the newest
record it has accepted. -/
namespace Fetchit.Chat
open Lib Lib.Outcome Proto.Identity Proto.PairRecord Relay.Directory

def maxRevision : Nat := 2 ^ 64 - 1

def nextRevision (revision : Nat) : Nat :=
  if revision < maxRevision then revision + 1 else revision

theorem le_nextRevision (revision : Nat) : revision ≤ nextRevision revision := by
  unfold nextRevision
  split <;> omega

inductive PostV4Outcome where
  | accepted
  | revisionReject (currentRevision : Nat)
  deriving DecidableEq

structure Response where
  status : Nat
  body : Option ErrorBody
  deriving DecidableEq

def respond (answer : Except PairRecordHttpError ServerState) : Response :=
  match answer with
  | .ok _ => ⟨200, none⟩
  | .error refusal => ⟨refusal.status, some refusal.jsonBody⟩

def postOutcome (response : Except ChatError Response) : Except ChatError PostV4Outcome := do
  let response ← response
  if 200 ≤ response.status ∧ response.status < 300 then .ok .accepted
  else if response.status = 409 then
    match response.body with
    | some (.currentRevision current) => .ok (.revisionReject current)
    | _ => .error (.invalid "409 body decode: missing field current_revision")
  else .error (.invalid s!"relay returned {response.status} publishing pair record v4")

theorem verifyStatus_ne_success (error : PairRecordError) :
    ¬ (200 ≤ verifyStatus error ∧ verifyStatus error < 300) := by
  cases error <;> simp [verifyStatus]

theorem status_ne_success (refusal : PairRecordHttpError) :
    ¬ (200 ≤ refusal.status ∧ refusal.status < 300) := by
  cases refusal with
  | verify error => exact verifyStatus_ne_success error
  | _ => simp [PairRecordHttpError.status]

theorem postOutcome_respond_accepted :
    postOutcome (.ok (respond answer)) = .ok .accepted ↔ ∃ state, answer = .ok state := by
  cases answer with
  | ok state => simp [postOutcome, respond]
  | error refusal =>
    have failed := status_ne_success refusal
    simp only [postOutcome, respond, ok_bind, if_neg failed]
    constructor
    · intro h
      split at h
      · split at h <;> cases h
      · cases h
    · rintro ⟨state, h⟩
      cases h

def republishCachedPairRecordV4 (cached : Except ChatError (Option PairRecordV4))
    (post : PairRecordV4 → Except ChatError PostV4Outcome) : Except ChatError Unit := do
  match ← cached with
  | none => .ok ()
  | some record =>
    match ← post record with
    | .accepted => .ok ()
    | .revisionReject _ => .ok ()

/-- A device certificate; `json` is its serialised form. -/
structure AgentCertificate where
  agentIdHex : String
  agentMlDsaPubkeyB64 : String
  kemPubkeyB64 : String
  addedAtMs : Nat
  json : Bytes
  deriving DecidableEq

def deviceEntryFromCert (cert : AgentCertificate) (relays : List String) : DeviceEntryV4 :=
  ⟨cert.agentIdHex, cert.agentMlDsaPubkeyB64, cert.kemPubkeyB64, relays,
    Base64.encode cert.json, cert.addedAtMs, false⟩

structure UserKeypair where
  publicKey : Bytes
  sign : Bytes → Except String Bytes

def UserKeypair.userIdHex (user : UserKeypair) (verifier : Verifier) : String :=
  hexId (deriveUserId verifier.crypto user.publicKey)

section
variable (verifier : Verifier)

def decodeDevice (device : DeviceEntryV4) : Except ChatError DeviceSigningView := do
  let invalid (name text : String) : ChatError :=
    .invalid s!"device {name} b64: {verifier.base64Error text}"
  let mlDsaPubkey ← okOr (Base64.decode device.mlDsaPubkeyB64)
    (invalid "ml_dsa" device.mlDsaPubkeyB64)
  let kemPubkey ← okOr (Base64.decode device.kemPubkeyB64) (invalid "kem" device.kemPubkeyB64)
  let cert ← okOr (Base64.decode device.certB64) (invalid "cert" device.certB64)
  .ok ⟨device.agentIdHex, mlDsaPubkey, kemPubkey, device.advertisedRelays, cert,
    device.addedAtMs, device.primary⟩

def mintPairRecordV4 (user : UserKeypair) (revision issuedAtMs : Nat)
    (devices : List DeviceEntryV4) : Except ChatError PairRecordV4 := do
  let views ← devices.mapM (decodeDevice verifier)
  let userIdHex := user.userIdHex verifier
  let input ← (pairRecordV4SigningInput verifier userIdHex user.publicKey revision issuedAtMs
    views).mapError fun error => .invalid s!"v4 signing input: {error.display}"
  let signature ← (user.sign input).mapError fun error => .invalid s!"user-key sign: {error}"
  .ok ⟨recordVersionV4, userIdHex, Base64.encode user.publicKey, revision, issuedAtMs, devices,
    Base64.encode signature⟩

def upsertDevice (entry : DeviceEntryV4) : List DeviceEntryV4 → List DeviceEntryV4
  | [] => [entry]
  | device :: rest =>
    if device.agentIdHex = entry.agentIdHex then entry :: rest
    else device :: upsertDevice entry rest

def promoteFirst : List DeviceEntryV4 → List DeviceEntryV4
  | [] => []
  | device :: rest => { device with primary := true } :: rest

/-- `user` is the account key that the vault reveals. -/
def appendAndMintFromMaster (cached : Option PairRecordV4) (user : Except ChatError UserKeypair)
    (cert : AgentCertificate) (relays : List String) (issuedAtMs : Nat) :
    Except ChatError PairRecordV4 := do
  let current ← okOr cached (.invalid
    "no cached device record; the existing device must self-cert before enrolling another")
  let devices := upsertDevice (deviceEntryFromCert cert relays) current.devices
  let user ← user
  mintPairRecordV4 verifier user (nextRevision current.revision) issuedAtMs devices

def removeAndMintFromMaster (cached : Option PairRecordV4) (user : Except ChatError UserKeypair)
    (agentIdHex : String) (issuedAtMs : Nat) : Except ChatError PairRecordV4 := do
  let current ← okOr cached (.invalid "no cached device record; nothing to revoke")
  let removed ← okOr (current.devices.find? fun device => device.agentIdHex == agentIdHex)
    (.invalid s!"device {agentIdHex} is not in the account device list")
  let devices := current.devices.filter fun device => device.agentIdHex != agentIdHex
  require (!devices.isEmpty)
    (.invalid "cannot revoke the only device; use account recovery instead")
  let devices := if removed.primary && !devices.any (·.primary) then promoteFirst devices
    else devices
  let user ← user
  mintPairRecordV4 verifier user (nextRevision current.revision) issuedAtMs devices

theorem mintPairRecordV4_ok
    (h : mintPairRecordV4 verifier user revision issuedAtMs devices = .ok record) :
    record.userIdHex = user.userIdHex verifier ∧ record.revision = revision ∧
      record.devices = devices := by
  unfold mintPairRecordV4 at h
  simp only [bind_eq_ok, Except.ok.injEq] at h
  obtain ⟨_, _, _, _, _, _, rfl⟩ := h
  exact ⟨rfl, rfl, rfl⟩

end

def agentIds (devices : List DeviceEntryV4) : List String := devices.map (·.agentIdHex)

theorem mem_agentIds_upsertDevice (entry : DeviceEntryV4) (devices : List DeviceEntryV4)
    (agent : String) : agent ∈ agentIds (upsertDevice entry devices) ↔
      agent = entry.agentIdHex ∨ agent ∈ agentIds devices := by
  induction devices with
  | nil => simp [upsertDevice, agentIds]
  | cons device rest ih =>
    unfold agentIds at ih ⊢
    by_cases same : device.agentIdHex = entry.agentIdHex
    · simp [upsertDevice, same]
    · simp only [upsertDevice]
      grind

theorem agentIds_promoteFirst (devices : List DeviceEntryV4) :
    agentIds (promoteFirst devices) = agentIds devices := by
  cases devices <;> rfl

end Fetchit.Chat
