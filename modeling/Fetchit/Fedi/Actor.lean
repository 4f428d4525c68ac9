import Fetchit.Fedi.Attestation

/-! Actor documents: the JSON-LD codec, the PEM envelope of the RSA key, and the
two attestation checks. Decoding is structural only; a binding is trusted after
the check of the attestation that carries it. -/
namespace Fetchit.Fedi
open Lib Lib.Outcome Proto.Identity Json Attestation

def pqAttestationPropertyUri : String := "https://etchit.io/ns#mlDsaAttestation-v1"

def pqAttestationV2PropertyUri : String := "https://etchit.io/ns#mlDsaAttestation-v2"

def maxIconDepth : Nat := 8

structure ActorIdentity where
  handle : String
  actorUrl : Url
  agentIdHex : String
  rsaPrivPem : String
  spkiDer : Bytes
  mlDsaAttestation : MlDsaAttestation
  mlDsaAttestationV2 : Option ActorAttestationV2
  iconUrl : Option String
  iconMediaType : Option String
  deriving DecidableEq

structure Actor where
  id : Url
  preferredUsername : String
  inbox : Url
  outbox : Url
  rsaPublicKeyPem : String
  mlDsaAttestation : MlDsaAttestation
  mlDsaAttestationV2 : Option ActorAttestationV2
  iconUrl : Option String
  iconMediaType : Option String
  deriving DecidableEq

inductive ActorError where
  | inboxUrl (reason : String)
  | outboxUrl (reason : String)
  | missingField (name : String)
  | invalidField (name reason : String)
  | attestation (reason : String)
  | attestationVerify (error : AttestationVerifyError)
  deriving DecidableEq

def ActorError.display : ActorError → String
  | .inboxUrl reason => s!"inbox url construction failed: {reason}"
  | .outboxUrl reason => s!"outbox url construction failed: {reason}"
  | .missingField name => s!"required Actor field missing: {name}"
  | .invalidField name reason => s!"Actor field {name} invalid: {reason}"
  | .attestation reason => s!"Actor PQ attestation decode failed: {reason}"
  | .attestationVerify error => error.display

def urlFromIconValue : Nat → Value → Option String
  | 0, _ => none
  | fuel + 1, value =>
    match value with
    | .string text => if (Text.trim text).isEmpty then none else some (Text.trim text)
    | .array items => items.findSome? (urlFromIconValue fuel)
    | .object entries =>
      ((entries.lookup "url").bind (urlFromIconValue fuel)).orElse fun _ =>
        (entries.lookup "href").bind (urlFromIconValue fuel)
    | _ => none

def iconUrlFromActorDoc (document : Value) : Option String :=
  (document.get "icon").bind (urlFromIconValue (maxIconDepth + 1))

def normalizeContentType (raw : String) : String :=
  let first := String.ofList (raw.toList.takeWhile (· != ';'))
  Text.asciiLower (Text.trim first)

def mediaTypeFromIconValue : Nat → Value → Option String
  | 0, _ => none
  | fuel + 1, value =>
    match value with
    | .array items => items.findSome? (mediaTypeFromIconValue fuel)
    | .object entries =>
      (((entries.lookup "mediaType").bind Value.asStr).map normalizeContentType).filter
        fun mediaType => !mediaType.isEmpty
    | _ => none

def iconMediaTypeFromActorDoc (document : Value) : Option String :=
  (document.get "icon").bind (mediaTypeFromIconValue (maxIconDepth + 1))

/-- A record with named fields also decodes from the array of its fields in order. -/
def decodeAttestation (value : Value) : Option MlDsaAttestation := do
  let (publicKey, signature) ← match value with
    | .object entries =>
      (entries.lookup "ml_dsa_pubkey").bind fun publicKey =>
        (entries.lookup "signature").map fun signature => (publicKey, signature)
    | .array [publicKey, signature] => some (publicKey, signature)
    | _ => none
  let mlDsaPubkey ← decodeBytes publicKey
  let signature ← decodeBytes signature
  some ⟨mlDsaPubkey, signature⟩

def encodeAttestation (attestation : MlDsaAttestation) : Value :=
  .object [("ml_dsa_pubkey", encodeBytes attestation.mlDsaPubkey),
    ("signature", encodeBytes attestation.signature)]

private def fieldsV2 (value : Value) : Option (List Value) :=
  match value with
  | .object entries =>
    ["version", "profile_addr", "relay_hint", "hint_epoch_ms", "ml_dsa_pubkey",
      "signature"].mapM fun name => entries.lookup name
  | .array items => some items
  | _ => none

def decodeAttestationV2 (value : Value) : Option ActorAttestationV2 := do
  match ← fieldsV2 value with
  | [version, profileAddr, relayHint, hintEpochMs, mlDsaPubkey, signature] => do
      let version ← decodeUnsigned (2 ^ 8) version
      let profileAddr ← profileAddr.asStr
      let relayHint ← relayHint.asStr
      let hintEpochMs ← decodeUnsigned (2 ^ 64) hintEpochMs
      let mlDsaPubkey ← decodeBytes mlDsaPubkey
      let signature ← decodeBytes signature
      some ⟨UInt8.ofNat version, profileAddr, relayHint, UInt64.ofNat hintEpochMs, mlDsaPubkey,
        signature⟩
  | _ => none

def encodeAttestationV2 (attestation : ActorAttestationV2) : Value :=
  .object [("version", .integer attestation.version.toNat),
    ("profile_addr", .string attestation.profileAddr),
    ("relay_hint", .string attestation.relayHint),
    ("hint_epoch_ms", .integer attestation.hintEpochMs.toNat),
    ("ml_dsa_pubkey", encodeBytes attestation.mlDsaPubkey),
    ("signature", encodeBytes attestation.signature)]

@[simp] theorem decodeAttestation_encodeAttestation (attestation : MlDsaAttestation) :
    decodeAttestation (encodeAttestation attestation) = some attestation := by
  have hfields : decodeAttestation (encodeAttestation attestation) =
      (decodeBytes (encodeBytes attestation.mlDsaPubkey)).bind fun mlDsaPubkey =>
        (decodeBytes (encodeBytes attestation.signature)).bind fun signature =>
          some ⟨mlDsaPubkey, signature⟩ := rfl
  rw [hfields, decodeBytes_encodeBytes, decodeBytes_encodeBytes]
  rfl

@[simp] theorem decodeAttestationV2_encodeAttestationV2 (attestation : ActorAttestationV2) :
    decodeAttestationV2 (encodeAttestationV2 attestation) = some attestation := by
  have hversion := decodeUnsigned_integer attestation.version.toNat_lt
  have hepoch := decodeUnsigned_integer attestation.hintEpochMs.toNat_lt
  have hfields : fieldsV2 (encodeAttestationV2 attestation) =
      some [.integer attestation.version.toNat, .string attestation.profileAddr,
        .string attestation.relayHint, .integer attestation.hintEpochMs.toNat,
        encodeBytes attestation.mlDsaPubkey, encodeBytes attestation.signature] := rfl
  unfold decodeAttestationV2
  rw [hfields]
  simp [hversion, hepoch, Value.asStr]

def requiredStr (value : Value) (name : String) : Except ActorError String :=
  okOr ((value.get name).bind Value.asStr) (.missingField name)

def requiredUrl (parsers : Parsers) (value : Value) (name : String) : Except ActorError Url := do
  let text ← requiredStr value name
  (parsers.parseUrl text).mapError (.invalidField name)

def isActorClassType (typeStr : String) : Bool :=
  ["Person", "Service", "Application", "Organization", "Group"].contains typeStr

def checkType (value : Value) : Except ActorError Unit :=
  match (value.get "type").bind Value.asStr with
  | none => .ok ()
  | some typeStr => require (isActorClassType typeStr) (.invalidField "type"
      ("expected one of \x7bPerson, Service, Application, Organization, Group\x7d; got " ++
        Text.quoted typeStr))

def checkOwner (publicKey : Value) (idStr : String) : Except ActorError Unit :=
  match (publicKey.get "owner").bind Value.asStr with
  | none => .ok ()
  | some owner => require (owner == idStr) (.invalidField "publicKey.owner"
      s!"owner {Text.quoted owner} does not match Actor id {Text.quoted idStr}")

def attestationV1 (parsers : Parsers) (value : Value) : Except ActorError MlDsaAttestation := do
  let raw ← okOr (value.get pqAttestationPropertyUri) (.missingField pqAttestationPropertyUri)
  okOr (decodeAttestation raw) (.attestation (parsers.structError raw))

def attestationV2 (parsers : Parsers) (value : Value) :
    Except ActorError (Option ActorAttestationV2) :=
  match value.get pqAttestationV2PropertyUri with
  | none => .ok none
  | some raw => okOr ((decodeAttestationV2 raw).map some)
      (.attestation s!"v2: {parsers.structError raw}")

def Actor.fromJsonLd (parsers : Parsers) (value : Value) : Except ActorError Actor := do
  let idStr ← requiredStr value "id"
  let id ← (parsers.parseUrl idStr).mapError (.invalidField "id")
  checkType value
  let preferredUsername ← requiredStr value "preferredUsername"
  let inbox ← requiredUrl parsers value "inbox"
  let outbox ← requiredUrl parsers value "outbox"
  let publicKey ← okOr (value.get "publicKey") (.missingField "publicKey")
  checkOwner publicKey idStr
  let rsaPublicKeyPem ← okOr ((publicKey.get "publicKeyPem").bind Value.asStr)
    (.missingField "publicKey.publicKeyPem")
  let mlDsaAttestation ← attestationV1 parsers value
  let mlDsaAttestationV2 ← attestationV2 parsers value
  let iconUrl := iconUrlFromActorDoc value
  let iconMediaType := iconMediaTypeFromActorDoc value
  .ok { id, preferredUsername, inbox, outbox, rsaPublicKeyPem, mlDsaAttestation,
        mlDsaAttestationV2, iconUrl, iconMediaType }

def iconObject (url : String) (mediaType : Option String) : Value :=
  let entries := [("type", Value.string "Image")]
  let entries := match mediaType with
    | some mediaType => insertEntry entries "mediaType" (.string mediaType)
    | none => entries
  .object (insertEntry entries "url" (.string url))

def Actor.baseJsonLd (actor : Actor) : List (String × Value) :=
  [("@context", .array [.string "https://www.w3.org/ns/activitystreams",
      .string "https://w3id.org/security/v1"]),
    ("id", .string actor.id.asStr),
    ("type", .string "Person"),
    ("preferredUsername", .string actor.preferredUsername),
    ("inbox", .string actor.inbox.asStr),
    ("outbox", .string actor.outbox.asStr),
    ("publicKey", .object [("id", .string s!"{actor.id.asStr}#main-key"),
      ("owner", .string actor.id.asStr), ("publicKeyPem", .string actor.rsaPublicKeyPem)]),
    (pqAttestationPropertyUri, encodeAttestation actor.mlDsaAttestation)]

def Actor.toJsonLd (actor : Actor) : Value :=
  let entries := actor.baseJsonLd
  let entries := match actor.mlDsaAttestationV2 with
    | some attestation =>
      insertEntry entries pqAttestationV2PropertyUri (encodeAttestationV2 attestation)
    | none => entries
  let entries := match actor.iconUrl with
    | some url => insertEntry entries "icon" (iconObject url actor.iconMediaType)
    | none => entries
  .object entries

variable {name : String} {parsers : Parsers} {value : Value} {actor : Actor}

theorem toJsonLd_get_of_ne (actor : Actor) (hicon : name ≠ "icon")
    (hv2 : name ≠ pqAttestationV2PropertyUri) :
    actor.toJsonLd.get name = actor.baseJsonLd.lookup name := by
  unfold Actor.toJsonLd
  simp only [Value.get]
  cases actor.iconUrl <;> cases actor.mlDsaAttestationV2 <;>
    simp [lookup_insertEntry, hicon, hv2]

theorem toJsonLd_get_v2 (actor : Actor) :
    actor.toJsonLd.get pqAttestationV2PropertyUri =
      actor.mlDsaAttestationV2.map encodeAttestationV2 := by
  have hbase : actor.baseJsonLd.lookup pqAttestationV2PropertyUri = none := rfl
  have hicon : pqAttestationV2PropertyUri ≠ "icon" := by decide
  unfold Actor.toJsonLd
  simp only [Value.get]
  cases actor.iconUrl <;> cases actor.mlDsaAttestationV2 <;>
    simp [lookup_insertEntry, hicon, hbase]

theorem attestationV1_toJsonLd (parsers : Parsers) (actor : Actor) :
    attestationV1 parsers actor.toJsonLd = .ok actor.mlDsaAttestation := by
  have hget : actor.toJsonLd.get pqAttestationPropertyUri =
      some (encodeAttestation actor.mlDsaAttestation) := by
    rw [toJsonLd_get_of_ne actor (by decide) (by decide)]
    rfl
  simp only [attestationV1, hget, okOr, ok_bind, decodeAttestation_encodeAttestation]

theorem attestationV2_toJsonLd (parsers : Parsers) (actor : Actor) :
    attestationV2 parsers actor.toJsonLd = .ok actor.mlDsaAttestationV2 := by
  unfold attestationV2
  rw [toJsonLd_get_v2]
  cases actor.mlDsaAttestationV2 with
  | none => rfl
  | some attestation => simp

theorem fromJsonLd_attestations (h : Actor.fromJsonLd parsers value = .ok actor) :
    attestationV1 parsers value = .ok actor.mlDsaAttestation ∧
      attestationV2 parsers value = .ok actor.mlDsaAttestationV2 := by
  simp only [Actor.fromJsonLd, bind_eq_ok] at h
  obtain ⟨_, _, _, _, _, _, _, _, _, _, _, _, _, _, _, _, _, _, v1, hv1, v2, hv2, h⟩ := h
  cases h
  exact ⟨hv1, hv2⟩

theorem fromJsonLd_toJsonLd (h : Actor.fromJsonLd parsers actor.toJsonLd = .ok decoded) :
    decoded.mlDsaAttestation = actor.mlDsaAttestation ∧
      decoded.mlDsaAttestationV2 = actor.mlDsaAttestationV2 := by
  have hdecoded := fromJsonLd_attestations h
  rw [attestationV1_toJsonLd, attestationV2_toJsonLd] at hdecoded
  exact ⟨(Except.ok.inj hdecoded.1).symm, (Except.ok.inj hdecoded.2).symm⟩

def pemLine (line : List Char) : String := String.ofList (line ++ ['\n'])

def spkiDerToPem (der : Bytes) : String :=
  let body := (Base64.encode der).toList.toChunks 64
  "-----BEGIN PUBLIC KEY-----\n" ++ String.join (body.map pemLine) ++
    "-----END PUBLIC KEY-----\n"

def spkiPemToDer (parsers : Parsers) (pem : String) : Except String Bytes :=
  let body := String.join ((Text.lines pem).filter fun line => !Text.startsWith line "-----")
  if body.isEmpty then .error "PEM body is empty"
  else match Base64.decode body with
    | some der => .ok der
    | none => .error s!"PEM base64: {parsers.base64Error body}"

def appendPath (parsers : Parsers) (base : Url) (suffix : String) : Except String Url :=
  let raw := Text.trimEndMatches base.asStr '/' ++ "/" ++ suffix
  (parsers.parseUrl raw).mapError fun error => s!"{Text.quoted raw}: {error}"

theorem appendPath_congr (parsers : Parsers) (suffix : String) (h : base.asStr = base'.asStr) :
    appendPath parsers base suffix = appendPath parsers base' suffix := by
  unfold appendPath
  rw [h]

def Actor.fromIdentity (parsers : Parsers) (identity : ActorIdentity) :
    Except ActorError Actor := do
  let inbox ← (appendPath parsers identity.actorUrl "inbox").mapError .inboxUrl
  let outbox ← (appendPath parsers identity.actorUrl "outbox").mapError .outboxUrl
  .ok { id := identity.actorUrl
        preferredUsername := identity.handle
        inbox := inbox
        outbox := outbox
        rsaPublicKeyPem := spkiDerToPem identity.spkiDer
        mlDsaAttestation := identity.mlDsaAttestation
        mlDsaAttestationV2 := identity.mlDsaAttestationV2
        iconUrl := identity.iconUrl
        iconMediaType := identity.iconMediaType }

theorem fromIdentity_ok (hinbox : appendPath parsers identity.actorUrl "inbox" = .ok inbox)
    (houtbox : appendPath parsers identity.actorUrl "outbox" = .ok outbox) :
    Actor.fromIdentity parsers identity = .ok ⟨identity.actorUrl, identity.handle, inbox, outbox,
      spkiDerToPem identity.spkiDer, identity.mlDsaAttestation, identity.mlDsaAttestationV2,
      identity.iconUrl, identity.iconMediaType⟩ := by
  simp only [Actor.fromIdentity, hinbox, houtbox, Except.mapError, ok_bind]

def Actor.spkiDer (parsers : Parsers) (actor : Actor) : Except ActorError Bytes :=
  (spkiPemToDer parsers actor.rsaPublicKeyPem).mapError (.invalidField "publicKey.publicKeyPem")

def Actor.verifyAttestation (crypto : Crypto) (parsers : Parsers) (actor : Actor) :
    Except ActorError String := do
  let spkiDer ← actor.spkiDer parsers
  (verifyBinding crypto actor.preferredUsername actor.id spkiDer
    actor.mlDsaAttestation).mapError .attestationVerify

def Actor.verifyAttestationV2 (crypto : Crypto) (parsers : Parsers) (actor : Actor) :
    Except ActorError String :=
  match actor.mlDsaAttestationV2 with
  | none => .error (.attestation "no v2 attestation on actor")
  | some attestation => do
      let spkiDer ← actor.spkiDer parsers
      (verifyBindingV2 crypto actor.preferredUsername actor.id spkiDer
        attestation).mapError .attestationVerify

theorem verifyAttestation_eq_ok :
    actor.verifyAttestation crypto parsers = .ok agentId ↔
      ∃ der, spkiPemToDer parsers actor.rsaPublicKeyPem = .ok der ∧
        verifyBinding crypto actor.preferredUsername actor.id der actor.mlDsaAttestation =
          .ok agentId := by
  simp only [Actor.verifyAttestation, Actor.spkiDer, bind_eq_ok, mapError_eq_ok]

theorem verifyAttestationV2_eq_ok (hv2 : actor.mlDsaAttestationV2 = some attestation) :
    actor.verifyAttestationV2 crypto parsers = .ok agentId ↔
      ∃ der, spkiPemToDer parsers actor.rsaPublicKeyPem = .ok der ∧
        verifyBindingV2 crypto actor.preferredUsername actor.id der attestation =
          .ok agentId := by
  unfold Actor.verifyAttestationV2
  rw [hv2]
  simp only [Actor.spkiDer, bind_eq_ok, mapError_eq_ok]

end Fetchit.Fedi
