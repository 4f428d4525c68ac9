import Fetchit.Lib.Run
import Fetchit.Bridge.Store

/-! The bridge's handlers over the table: registering an actor, serving its document,
and the per-request authentication of the owner-scoped endpoints. -/
namespace Fetchit.Bridge
open Lib Lib.Outcome Proto.Identity Fedi Fedi.Json

structure BridgeConfig where
  crypto : Crypto
  parsers : Parsers
  domain : String
  reservedHandles : List String

structure Response where
  status : Nat
  body : String
  deriving DecidableEq

def isValidHandle (handle : String) : Bool :=
  !handle.isEmpty && handle.utf8ByteSize ≤ 64 &&
    handle.toList.all fun c => c.isAlphanum || c == '_' || c == '-'

def idOk (bridge : BridgeConfig) (id : Url) (handle : String) : Bool :=
  id.scheme == "https" && id.port.isNone &&
    id.hostStr.any (fun host => Text.eqIgnoreAsciiCase host bridge.domain) &&
    id.path == s!"/actors/{handle}"

def checkRegistration (bridge : BridgeConfig) (body : Value) (nowMs : Int) :
    Except Response ActorRecord := do
  let actor ← (Actor.fromJsonLd bridge.parsers body).mapError fun error =>
    ⟨400, s!"malformed actor: {error.display}"⟩
  let agentId ← (actor.verifyAttestation bridge.crypto bridge.parsers).mapError fun error =>
    ⟨403, s!"attestation rejected (not a fetch>it-native actor): {error.display}"⟩
  let handle := actor.preferredUsername
  require (isValidHandle handle) ⟨400, "invalid handle"⟩
  require (!bridge.reservedHandles.contains (Text.asciiLower handle))
    ⟨403, "handle is reserved"⟩
  require (idOk bridge actor.id handle)
    ⟨403, "actor id must be https://<domain>/actors/<handle> under this bridge"⟩
  .ok { agentId := agentId
        handle := handle
        actorUrl := actor.id.asStr
        docJson := actor.toJsonLd
        registeredMs := nowMs }

variable {bridge : BridgeConfig} {body : Value} {record : ActorRecord} {store : Store}
  {hdrs : AuthHeaders} {nowMs : UInt64} {handle : String}

/-- An accepted registration stores the rendering of a decoded document whose v1
attestation verifies. -/
theorem checkRegistration_eq_ok {nowMs : Int}
    (h : checkRegistration bridge body nowMs = .ok record) :
    ∃ actor, Actor.fromJsonLd bridge.parsers body = .ok actor ∧
      actor.verifyAttestation bridge.crypto bridge.parsers = .ok record.agentId ∧
      record.handle = actor.preferredUsername ∧ record.actorUrl = actor.id.asStr ∧
      record.docJson = actor.toJsonLd := by
  simp only [checkRegistration, bind_eq_ok, mapError_eq_ok] at h
  obtain ⟨actor, hactor, agentId, hagent, _, _, _, _, _, _, h⟩ := h
  cases h
  exact ⟨actor, hactor, hagent, rfl, rfl, rfl⟩

def register (bridge : BridgeConfig) (store : Store) (body : Value) (nowMs : Int)
    (fault : Option String) : Response × Store :=
  match checkRegistration bridge body nowMs with
  | .error response => (response, store)
  | .ok record =>
    match store.registerActor fault record with
    | (.ok .created, store') => (⟨201, "registered"⟩, store')
    | (.ok .updated, store') => (⟨200, "updated"⟩, store')
    | (.ok .handleTaken, store') => (⟨409, "handle already registered"⟩, store')
    | (.error _, store') => (⟨500, "store error"⟩, store')

theorem register_store_eq {nowMs : Int} (fault : Option String)
    (h : checkRegistration bridge body nowMs = .ok record) :
    (register bridge store body nowMs fault).2 = (store.registerActor fault record).2 := by
  unfold register
  rw [h]
  dsimp only
  split <;> rename_i heq <;> rw [heq]

theorem register_store (bridge : BridgeConfig) (store : Store) (body : Value) (nowMs : Int)
    (fault : Option String) :
    (register bridge store body nowMs fault).2 = store ∨
      ∃ record, checkRegistration bridge body nowMs = .ok record ∧
        store.upsert record = some (register bridge store body nowMs fault).2 := by
  cases h : checkRegistration bridge body nowMs with
  | error response =>
    left
    unfold register
    rw [h]
  | ok record =>
    rw [register_store_eq fault h]
    cases registerActor_cases fault store record with
    | inl hsame => exact .inl hsame
    | inr hupsert => exact .inr ⟨record, rfl, hupsert⟩

def getActor (store : Store) (handle : String) (fault : Option String) :
    Except Response Value :=
  match fault with
  | some _ => .error ⟨500, "store error"⟩
  | none => okOr ((store.actorByHandle handle).map (·.docJson)) ⟨404, "no such actor"⟩

def maxSkewMs : Nat := 300000

inductive AuthError where
  | badHeader (name : String)
  | staleTimestamp
  | agentMismatch
  | badSignature
  | actorUnusable (reason : String)
  deriving DecidableEq

def AuthError.display : AuthError → String
  | .badHeader name => s!"missing or malformed header {name}"
  | .staleTimestamp => "timestamp outside skew window"
  | .agentMismatch => "agent id does not own this handle"
  | .badSignature => "signature verification failed"
  | .actorUnusable reason => s!"stored actor unusable: {reason}"

def AuthError.respond (error : AuthError) : Response :=
  match error with
  | .badHeader _ => ⟨401, s!"auth: {error.display}"⟩
  | _ => ⟨403, s!"auth: {error.display}"⟩

/-- A header value is seen through its text; `none` when it is not visible ASCII. -/
abbrev HeaderMap := List (String × Option String)

def HeaderMap.text (headers : HeaderMap) (name : String) : Except AuthError String :=
  okOr (headers.lookup name).join (.badHeader name)

private def digitsValue (digits : List Char) : Nat :=
  digits.foldl (fun acc c => acc * 10 + (c.toNat - 48)) 0

/-- Decimal digits after an optional plus sign, within 64 bits. -/
def parseU64 (text : String) : Option UInt64 :=
  let digits := match text.toList with
    | '+' :: rest => rest
    | chars => chars
  if !digits.isEmpty && digits.all Char.isDigit && digitsValue digits < 2 ^ 64 then
    some (UInt64.ofNat (digitsValue digits))
  else none

structure AuthHeaders where
  agentIdHex : String
  tsMs : UInt64
  sig : Bytes
  deriving DecidableEq

def parseHeaders (headers : HeaderMap) : Except AuthError AuthHeaders := do
  let agent ← headers.text "x-fetchit-agent"
  let agentIdHex := Text.asciiLower agent
  require (agentIdHex.utf8ByteSize == 64 && agentIdHex.toList.all Text.isHexDigit)
    (.badHeader "x-fetchit-agent")
  let ts ← headers.text "x-fetchit-ts"
  let tsMs ← okOr (parseU64 ts) (.badHeader "x-fetchit-ts")
  let encoded ← headers.text "x-fetchit-sig"
  let sig ← okOr (Base64.decode encoded) (.badHeader "x-fetchit-sig")
  .ok { agentIdHex, tsMs, sig }

def signedHeaders (id : AgentId) (ts : String) (sig : Bytes) : HeaderMap :=
  [("x-fetchit-agent", some (hexId id)), ("x-fetchit-ts", some ts),
    ("x-fetchit-sig", some (Base64.encode sig))]

def authDomain : String := "fetchit-bridge-auth-v1"

def canonicalRequest (crypto : Crypto) (method path : String) (tsMs : UInt64) (body : Bytes) :
    Bytes :=
  utf8 authDomain ++ [0] ++ utf8 (Text.asciiUpper method) ++ [0] ++ utf8 path ++ [0] ++
    bigEndian 8 tsMs.toNat ++ (crypto.sha256 body).toList

theorem not_isAttestation_canonicalRequest (crypto : Crypto) (method path : String)
    (tsMs : UInt64) (body : Bytes) :
    ¬ Attestation.IsAttestation (canonicalRequest crypto method path tsMs body) := by
  have hrequest : (canonicalRequest crypto method path tsMs body).take 9 =
      (utf8 authDomain).take 9 := by
    have hlen : 9 ≤ (utf8 authDomain).length := by decide +kernel
    simp only [canonicalRequest, List.append_assoc]
    rw [List.take_append_of_le_length hlen]
  rintro ⟨rest, h | h⟩
  all_goals
    have htake := congrArg (List.take 9) h
    rw [hrequest, List.take_append_of_le_length (by decide +kernel)] at htake
    exact absurd htake (by decide +kernel)

def absDiff (first second : Nat) : Nat := (first - second) + (second - first)

def verifyRequest (crypto : Crypto) (hdrs : AuthHeaders) (expectedAgentIdHex : String)
    (mlDsaPubkey : Bytes) (method path : String) (body : Bytes) (nowMs : UInt64) :
    Except AuthError Unit := do
  require (hdrs.agentIdHex == Text.asciiLower expectedAgentIdHex) .agentMismatch
  require (absDiff nowMs.toNat hdrs.tsMs.toNat ≤ maxSkewMs) .staleTimestamp
  (crypto.parsePublicKey mlDsaPubkey).mapError fun error =>
    .actorUnusable s!"attestation pubkey: {error}"
  (crypto.parseSignature hdrs.sig).mapError fun _ => .badSignature
  let framed := agentSignInput (canonicalRequest crypto method path hdrs.tsMs body)
  match crypto.verify mlDsaPubkey framed hdrs.sig with
  | .ok true => .ok ()
  | _ => .error .badSignature

theorem verifyRequest_eq_ok {body : Bytes}
    (h : verifyRequest crypto hdrs expected publicKey method path body nowMs = .ok ()) :
    SignatureHolds crypto publicKey (canonicalRequest crypto method path hdrs.tsMs body)
      hdrs.sig := by
  simp only [verifyRequest, bind_eq_ok, mapError_eq_ok] at h
  obtain ⟨_, _, _, _, _, hkey, _, hsig, h⟩ := h
  refine ⟨hkey, hsig, ?_⟩
  split at h
  · assumption
  · cases h

structure Request where
  headers : HeaderMap
  method : String
  path : String
  body : Bytes

/-- The refusals in which the two copies of the gate differ. -/
structure Gate where
  unknownHandle : Response
  unusable : Response

def attestedKey (actor : Actor) : Bytes :=
  match actor.mlDsaAttestationV2 with
  | some attestation => attestation.mlDsaPubkey
  | none => actor.mlDsaAttestation.mlDsaPubkey

def Gate.findRecord (gate : Gate) (store : Store) (handle : String) (fault : Option String) :
    Except Response ActorRecord :=
  match fault with
  | some _ => .error ⟨500, "store error"⟩
  | none => okOr (store.actorByHandle handle) gate.unknownHandle

theorem findRecord_eq_ok {gate : Gate} (h : gate.findRecord store handle fault = .ok record) :
    store.actorByHandle handle = some record := by
  cases fault with
  | some _ => cases h
  | none => exact okOr_eq_ok.mp h

def Gate.authenticate (gate : Gate) (bridge : BridgeConfig) (store : Store) (handle : String)
    (request : Request) (nowMs : UInt64) (fault : Option String) :
    Except Response ActorRecord := do
  let hdrs ← (parseHeaders request.headers).mapError fun error =>
    ⟨401, s!"auth: {error.display}"⟩
  let record ← gate.findRecord store handle fault
  let actor ← (Actor.fromJsonLd bridge.parsers record.docJson).mapError fun _ => gate.unusable
  (verifyRequest bridge.crypto hdrs record.agentId (attestedKey actor) request.method
    request.path request.body nowMs).mapError AuthError.respond
  .ok record

def authActor : Gate := ⟨⟨404, "unknown handle"⟩, ⟨403, "actor record unusable"⟩⟩

def authOwner : Gate := ⟨⟨404, "no such actor"⟩, ⟨500, "corrupt doc"⟩⟩

/-- A request passes the gate only with a signature under the attested key of the
document in the handle's row. -/
theorem authenticate_eq_ok {gate : Gate}
    (h : gate.authenticate bridge store handle request nowMs fault = .ok record) :
    store.actorByHandle handle = some record ∧ ∃ hdrs actor,
      parseHeaders request.headers = .ok hdrs ∧
      Actor.fromJsonLd bridge.parsers record.docJson = .ok actor ∧
      SignatureHolds bridge.crypto (attestedKey actor)
        (canonicalRequest bridge.crypto request.method request.path hdrs.tsMs request.body)
        hdrs.sig := by
  simp only [Gate.authenticate, bind_eq_ok, mapError_eq_ok] at h
  obtain ⟨hdrs, hhdrs, found, hfound, actor, hactor, _, hverify, h⟩ := h
  cases h
  exact ⟨findRecord_eq_ok hfound, hdrs, actor, hhdrs, hactor, verifyRequest_eq_ok hverify⟩

theorem authenticate_of_isOk {gate : Gate} (found : store.actorByHandle handle = some record)
    (ok : (gate.authenticate bridge store handle request nowMs fault).isOk = true) :
    gate.authenticate bridge store handle request nowMs fault = .ok record := by
  cases passes : gate.authenticate bridge store handle request nowMs fault with
  | error => simp [passes, Except.toBool] at ok
  | ok other => rw [Option.some.inj ((authenticate_eq_ok passes).1.symm.trans found)]

end Fetchit.Bridge
