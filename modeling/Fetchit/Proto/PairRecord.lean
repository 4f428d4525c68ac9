import Fetchit.Lib.Base64
import Fetchit.Lib.Outcome
import Fetchit.Proto.Identity

/-! Signed pairing records. A V1 record and a forwarding record are signed with an agent key, a
V4 record with the account's user key; each signature covers a domain separator and
length-prefixed fields. Verification keeps no state: whether a record is newer than another is
for its callers to compare. -/
namespace Fetchit.Proto.PairRecord
open Lib Lib.Outcome Identity

def pairRecordDomain : String := "fetchit-pair-record-v1"

def forwardingDomain : String := "fetchit-forwarding-v1"

def pairRecordV4Domain : String := "fetchit-pair-record-v4"

def recordVersionV1 : Nat := 1

def recordVersionV4 : Nat := 4

def maxDevices : Nat := 5

def maxRelays : Nat := 4

def maxUrlBytes : Nat := 256

structure PairRecordV1 where
  recordVersion : Nat
  agentIdHex : String
  mlDsaPubkeyB64 : String
  kemPubkeyB64 : String
  machineId : String
  advertisedRelays : List String
  issuedAtMs : Nat
  sigB64 : String
  deriving DecidableEq

structure ForwardingRecordV1 where
  agentIdHex : String
  movedToRelays : List String
  issuedAtMs : Nat
  sigB64 : String
  deriving DecidableEq

structure DeviceEntryV4 where
  agentIdHex : String
  mlDsaPubkeyB64 : String
  kemPubkeyB64 : String
  advertisedRelays : List String
  certB64 : String
  addedAtMs : Nat
  primary : Bool
  deriving DecidableEq

structure PairRecordV4 where
  recordVersion : Nat
  userIdHex : String
  userMlDsaPubkeyB64 : String
  revision : Nat
  issuedAtMs : Nat
  devices : List DeviceEntryV4
  userSignatureB64 : String
  deriving DecidableEq

inductive PairRecordError where
  | emptyRelays
  | tooManyRelays (n : Nat)
  | relayUrlTooLong (len : Nat)
  | relayUrlInvalid
  | relayUrlHasCredentials
  | agentIdMismatch
  | invalidAgentIdHex
  | invalidUserIdHex
  | userIdMismatch
  | emptyDevices
  | tooManyDevices (n : Nat)
  | notExactlyOnePrimary (n : Nat)
  | base64 (reason : String)
  | pubkeyParse (reason : String)
  | signatureParse (reason : String)
  | verifyBackend (reason : String)
  | signatureInvalid
  | fieldTooLong (len : Nat)
  deriving DecidableEq

def PairRecordError.display : PairRecordError → String
  | .emptyRelays => "relay list must contain at least one entry"
  | .tooManyRelays n => s!"relay list has {n} entries; maximum is 4"
  | .relayUrlTooLong len => s!"relay URL is {len} bytes; maximum is 256"
  | .relayUrlInvalid => "relay URL is not a valid http/https URL with a host"
  | .relayUrlHasCredentials => "relay URL must not embed credentials"
  | .agentIdMismatch => "derived agent id does not match the claimed agent_id_hex"
  | .invalidAgentIdHex => "agent_id_hex must be lowercase 64-hex"
  | .invalidUserIdHex => "user_id_hex must be lowercase 64-hex"
  | .userIdMismatch => "derived user id does not match the claimed user_id_hex"
  | .emptyDevices => "device list must contain at least one entry"
  | .tooManyDevices n => s!"device list has {n} entries; maximum is 5"
  | .notExactlyOnePrimary n =>
    s!"device list must have exactly one primary device, found {n}"
  | .base64 reason => s!"base64 decode error: {reason}"
  | .pubkeyParse reason => s!"ML-DSA pubkey parse error: {reason}"
  | .signatureParse reason => s!"ML-DSA signature parse error: {reason}"
  | .verifyBackend reason => s!"ML-DSA verify backend error: {reason}"
  | .signatureInvalid => "signature does not verify"
  | .fieldTooLong len => s!"field is {len} bytes; exceeds u32::MAX"

/-- What the relay check reads of a parsed URL. -/
structure RelayUrl where
  scheme : String
  hostStr : Option String
  username : String
  password : Option String
  deriving DecidableEq

/-- What verification takes from outside: the primitives, the URL parser, and the message of
the base64 decoder. -/
structure Verifier where
  crypto : Crypto
  parseUrl : String → Option RelayUrl
  base64Error : String → String

section
variable (verifier : Verifier)

def isLowerHexByte (byte : UInt8) : Bool :=
  (48 ≤ byte && byte ≤ 57) || (97 ≤ byte && byte ≤ 102)

def validateLowerHex (error : PairRecordError) (text : String) : Except PairRecordError Unit :=
  require (text.utf8ByteSize == 64 && (utf8 text).all isLowerHexByte) error

def validateUserIdHex (text : String) : Except PairRecordError Unit :=
  validateLowerHex .invalidUserIdHex text

def validateAgentIdHex (text : String) : Except PairRecordError Unit :=
  validateLowerHex .invalidAgentIdHex text

def validateRelay (relay : String) : Except PairRecordError Unit := do
  require (relay.utf8ByteSize ≤ maxUrlBytes) (.relayUrlTooLong relay.utf8ByteSize)
  let parsed ← okOr (verifier.parseUrl relay) .relayUrlInvalid
  require (parsed.scheme == "http" || parsed.scheme == "https") .relayUrlInvalid
  require (parsed.hostStr.any fun host => !host.isEmpty) .relayUrlInvalid
  require (parsed.username.isEmpty && parsed.password.isNone) .relayUrlHasCredentials

def validateRelays (relays : List String) : Except PairRecordError Unit := do
  require (!relays.isEmpty) .emptyRelays
  require (relays.length ≤ maxRelays) (.tooManyRelays relays.length)
  relays.forM (validateRelay verifier)

def pushLp (out field : Bytes) : Except PairRecordError Bytes :=
  match lengthPrefixed 4 field with
  | some framed => .ok (out ++ framed)
  | none => .error (.fieldTooLong field.length)

def pushCount (out : Bytes) (count : Nat) (error : Nat → PairRecordError) :
    Except PairRecordError Bytes := do
  require (count < 2 ^ 32) (error count)
  .ok (out ++ bigEndian 4 count)

def pushRelays (out : Bytes) (relays : List String) : Except PairRecordError Bytes := do
  let out ← pushCount out relays.length .tooManyRelays
  relays.foldlM (fun out relay => pushLp out (utf8 relay)) out

def pairSigningInput (agentIdHex : String) (mlDsaPubkey kemPubkey : Bytes)
    (relays : List String) (issuedAtMs : Nat) : Except PairRecordError Bytes := do
  validateAgentIdHex agentIdHex
  validateRelays verifier relays
  let out := utf8 pairRecordDomain
  let out ← pushLp out (utf8 agentIdHex)
  let out ← pushLp out mlDsaPubkey
  let out ← pushLp out kemPubkey
  let out ← pushRelays out relays
  .ok (out ++ bigEndian 8 issuedAtMs)

def forwardingSigningInput (agentIdHex : String) (relays : List String) (issuedAtMs : Nat) :
    Except PairRecordError Bytes := do
  validateAgentIdHex agentIdHex
  validateRelays verifier relays
  let out := utf8 forwardingDomain
  let out ← pushLp out (utf8 agentIdHex)
  let out ← pushRelays out relays
  .ok (out ++ bigEndian 8 issuedAtMs)

def decodeField (text : String) : Except PairRecordError Bytes :=
  okOr (Base64.decode text) (.base64 (verifier.base64Error text))

def checkSignature (publicKey input signature : Bytes) : Except PairRecordError Unit :=
  verifySignature verifier.crypto .pubkeyParse .signatureParse .verifyBackend .signatureInvalid
    publicKey input signature

def verifyPairRecord (record : PairRecordV1) : Except PairRecordError Unit := do
  validateAgentIdHex record.agentIdHex
  validateRelays verifier record.advertisedRelays
  let mlDsaPubkey ← decodeField verifier record.mlDsaPubkeyB64
  let kemPubkey ← decodeField verifier record.kemPubkeyB64
  let signature ← decodeField verifier record.sigB64
  require (hexId (deriveAgentId verifier.crypto mlDsaPubkey) == record.agentIdHex)
    .agentIdMismatch
  let input ← pairSigningInput verifier record.agentIdHex mlDsaPubkey kemPubkey
    record.advertisedRelays record.issuedAtMs
  checkSignature verifier mlDsaPubkey (agentSignInput input) signature

def verifyForwardingRecord (record : ForwardingRecordV1) (expectedPubkey : Bytes) :
    Except PairRecordError Unit := do
  validateAgentIdHex record.agentIdHex
  validateRelays verifier record.movedToRelays
  let signature ← decodeField verifier record.sigB64
  require (hexId (deriveAgentId verifier.crypto expectedPubkey) == record.agentIdHex)
    .agentIdMismatch
  let input ← forwardingSigningInput verifier record.agentIdHex record.movedToRelays
    record.issuedAtMs
  checkSignature verifier expectedPubkey (agentSignInput input) signature

theorem agentIdHex_of_verifyForwardingRecord
    (h : verifyForwardingRecord verifier record key = .ok ()) :
    record.agentIdHex = hexId (deriveAgentId verifier.crypto key) := by
  unfold verifyForwardingRecord at h
  simp only [bind_eq_ok, require_eq_ok, beq_iff_eq] at h
  obtain ⟨_, _, _, _, _, _, _, derived, _⟩ := h
  exact derived.symm

structure DeviceSigningView where
  agentIdHex : String
  mlDsaPubkey : Bytes
  kemPubkey : Bytes
  relays : List String
  cert : Bytes
  addedAtMs : Nat
  primary : Bool

def checkDeviceList (primaries : List Bool) : Except PairRecordError Unit := do
  require (!primaries.isEmpty) .emptyDevices
  require (primaries.length ≤ maxDevices) (.tooManyDevices primaries.length)
  require (primaries.count true == 1) (.notExactlyOnePrimary (primaries.count true))

def validateDeviceList (devices : List DeviceSigningView) : Except PairRecordError Unit := do
  checkDeviceList (devices.map (·.primary))
  devices.forM fun device => do
    validateAgentIdHex device.agentIdHex
    validateRelays verifier device.relays

def pushDevice (out : Bytes) (device : DeviceSigningView) : Except PairRecordError Bytes := do
  let out ← pushLp out (utf8 device.agentIdHex)
  let out ← pushLp out device.mlDsaPubkey
  let out ← pushLp out device.kemPubkey
  let out ← pushRelays out device.relays
  let out := out ++ bigEndian 8 device.addedAtMs
  let out := out ++ [if device.primary then 1 else 0]
  pushLp out device.cert

def pairRecordV4SigningInput (userIdHex : String) (userMlDsaPubkey : Bytes)
    (revision issuedAtMs : Nat) (devices : List DeviceSigningView) :
    Except PairRecordError Bytes := do
  validateUserIdHex userIdHex
  validateDeviceList verifier devices
  let out := utf8 pairRecordV4Domain
  let out ← pushLp out (utf8 userIdHex)
  let out ← pushLp out userMlDsaPubkey
  let out := out ++ bigEndian 8 revision ++ bigEndian 8 issuedAtMs
  let out ← pushCount out devices.length .tooManyDevices
  devices.foldlM pushDevice out

def deviceView (device : DeviceEntryV4) : Except PairRecordError DeviceSigningView := do
  validateAgentIdHex device.agentIdHex
  validateRelays verifier device.advertisedRelays
  let mlDsaPubkey ← decodeField verifier device.mlDsaPubkeyB64
  let kemPubkey ← decodeField verifier device.kemPubkeyB64
  let cert ← decodeField verifier device.certB64
  require (hexId (deriveAgentId verifier.crypto mlDsaPubkey) == device.agentIdHex)
    .agentIdMismatch
  .ok ⟨device.agentIdHex, mlDsaPubkey, kemPubkey, device.advertisedRelays, cert,
    device.addedAtMs, device.primary⟩

def verifyPairRecordV4 (record : PairRecordV4) : Except PairRecordError Unit := do
  validateUserIdHex record.userIdHex
  checkDeviceList (record.devices.map (·.primary))
  let userPubkey ← decodeField verifier record.userMlDsaPubkeyB64
  require (hexId (deriveUserId verifier.crypto userPubkey) == record.userIdHex) .userIdMismatch
  let views ← record.devices.mapM (deviceView verifier)
  let input ← pairRecordV4SigningInput verifier record.userIdHex userPubkey record.revision
    record.issuedAtMs views
  let signature ← decodeField verifier record.userSignatureB64
  checkSignature verifier userPubkey input signature

end

def acceptAllVerifier : Verifier where
  crypto :=
    { sha256 := fun _ => Vector.replicate 32 0
      parsePublicKey := fun _ => .ok ()
      parseSignature := fun _ => .ok ()
      verify := fun _ _ _ => .ok true }
  parseUrl _ := some ⟨"https", some "relay", "", none⟩
  base64Error text := text

def zeroId : String := hexId (Vector.replicate 32 0)

def zeroPairRecord (issuedAtMs : Nat) : PairRecordV1 :=
  ⟨recordVersionV1, zeroId, "", "", "", ["https://relay"], issuedAtMs, ""⟩

def zeroForwarding (issuedAtMs : Nat) : ForwardingRecordV1 :=
  ⟨zeroId, ["https://relay"], issuedAtMs, ""⟩

def zeroPairRecordV4 (revision issuedAtMs : Nat) : PairRecordV4 :=
  ⟨recordVersionV4, zeroId, "", revision, issuedAtMs,
    [⟨zeroId, "", "", ["https://relay"], "", 0, true⟩], ""⟩

end Fetchit.Proto.PairRecord
