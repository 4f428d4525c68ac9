import Fetchit.Lib.Run
import Fetchit.Lib.Window
import Fetchit.Fedi.HttpDate
import Fetchit.Fedi.HttpSignature

/-! The relay's fediverse inbox: the gates a request passes, in the order in which they run, and
the hand-over to the sink. What a gate asks of its surroundings (clocks, rate limiter, denylist,
key lookup, sink) is given with each request. -/
namespace Fetchit.Relay.Inbox
open Lib Lib.Outcome Fedi.Json Fedi.HttpDate Fedi.HttpSignature

inductive DropReason where
  | bodyTooLarge
  | rateLimited (instanceName : String)
  | staleRequest
  | replay
  | sigFail (label : String)
  | unsupportedAlgorithm
  | denylisted (actorUrl : String)
  | webFingerLookupFailed
  | missingKeyId
  | missingHeader (name : String)
  | sinkRejected
  deriving DecidableEq

structure InboxError where
  reason : DropReason
  status : Nat
  deriving DecidableEq

def InboxError.badRequest (reason : DropReason) : InboxError := ⟨reason, 400⟩
def InboxError.payloadTooLarge : InboxError := ⟨.bodyTooLarge, 413⟩
def InboxError.unauthorized (reason : DropReason) : InboxError := ⟨reason, 401⟩
def InboxError.forbidden (reason : DropReason) : InboxError := ⟨reason, 403⟩
def InboxError.tooManyRequests (reason : DropReason) : InboxError := ⟨reason, 429⟩
def InboxError.serviceUnavailable (reason : DropReason) : InboxError := ⟨reason, 503⟩

inductive SignatureScheme where
  | rfc9421
  | cavage
  deriving DecidableEq

structure InboxSignatureContext where
  scheme : SignatureScheme
  keyId : String
  date : String
  digest : String
  signatureInput : String
  signature : String
  host : String
  targetUri : String
  requestTarget : String
  deriving DecidableEq

/-- Header names are lower case; a value is seen through its text, `none` when it is not visible
ASCII. -/
abbrev HeaderMap := List (String × Option String)

def headerValue (headers : HeaderMap) (name : String) : Option String :=
  (headers.lookup name).join

def requireHeader (headers : HeaderMap) (name : String) : Except DropReason String :=
  okOr (headerValue headers name) (.missingHeader name)

def readHost (headers : HeaderMap) : Except DropReason String :=
  match headerValue headers "x-forwarded-host" with
  | some host => .ok host
  | none => requireHeader headers "host"

def reconstructTargetUri (headers : HeaderMap) (requestPath : String) :
    Except DropReason String := do
  let host ← readHost headers
  let scheme := (headerValue headers "x-forwarded-proto").getD "https"
  let host := (headerValue headers "x-forwarded-host").getD host
  .ok (scheme ++ "://" ++ host ++ requestPath)

def parseRfc9421Keyid (signatureInput : String) : Option String := do
  let (_, rest) ← Scan.cutChars "keyid=\"".toList signatureInput.toList
  let (keyId, _) ← Scan.cutChars ['"'] rest
  some (String.ofList keyId)

def extractInboxSignatureContext (headers : HeaderMap) (requestPath : String) :
    Except DropReason InboxSignatureContext := do
  let signature ← requireHeader headers "signature"
  let date ← requireHeader headers "date"
  let host ← readHost headers
  match headerValue headers "signature-input" with
  | some sigInput => do
      let contentDigest ← requireHeader headers "content-digest"
      let targetUri ← reconstructTargetUri headers requestPath
      let keyId ← okOr (parseRfc9421Keyid sigInput) .missingKeyId
      .ok ⟨.rfc9421, keyId, date, contentDigest, sigInput, signature, host, targetUri, ""⟩
  | none => do
      let digest ← requireHeader headers "digest"
      let parsed ← (parseCavageSignatureHeader signature).mapError fun _ =>
        .sigFail "header_malformed"
      require (!parsed.keyId.isEmpty) .missingKeyId
      .ok ⟨.cavage, parsed.keyId, date, digest, "", signature, host, "", "post " ++ requestPath⟩

def mapVerifyErr (error : SignatureVerifyError) : DropReason := .sigFail error.reasonLabel

def verifyInboxRequest (rsa : Rsa) (pubkeyPem : String) (ctx : InboxSignatureContext)
    (body : Bytes) : Except DropReason SignatureScheme := do
  let pubkey ← okOr (parseRsaPublicKeyPem rsa pubkeyPem) (.sigFail "pubkey_decode")
  match ctx.scheme with
  | .rfc9421 => do
      (verifySignatureRfc9421 rsa pubkey ctx.targetUri ctx.host ctx.date ctx.digest
        ctx.signatureInput ctx.signature body).mapError mapVerifyErr
      .ok .rfc9421
  | .cavage => do
      let parsed ← (parseCavageSignatureHeader ctx.signature).mapError fun _ =>
        .sigFail "header_malformed"
      require (parsed.algorithm.isEmpty || parsed.algorithm == "rsa-sha256") .unsupportedAlgorithm
      (verifySignatureCavage rsa pubkey ctx.requestTarget ctx.host ctx.date ctx.digest
        ctx.signature body).mapError mapVerifyErr
      .ok .cavage

def checkDateSkew (dateHeader : String) (now : Nat) (maxSkew : Nat) :
    Except DropReason Unit := do
  let parsed ← okOr (parseImfFixdate dateHeader) .staleRequest
  require ((if now < parsed then parsed - now else now - parsed) ≤ maxSkew) .staleRequest

def parseInstance (parseUrl : String → Except String Url) (keyId : String) : Option String := do
  let url ← (parseUrl keyId).toOption
  let host ← url.hostStr
  match url.port with
  | some port => some (host ++ ":" ++ toString port)
  | none => some host

def stripKeyidFragment (keyId : String) : String :=
  match Scan.splitOnce keyId "#" with
  | some (actorUrl, _) => actorUrl
  | none => keyId

def dateToUnix (date : String) : Int :=
  match parseImfFixdate date with
  | some moment => if moment / second < 2 ^ 63 then (moment / second : Nat) else 0
  | none => 0

abbrev ReplayKey := String × Int

def InboxSignatureContext.replayKey (ctx : InboxSignatureContext) : ReplayKey :=
  (ctx.digest, dateToUnix ctx.date)

abbrev ReplayWindow := Window ReplayKey

def replayWindowLength : Nat := 300 * second

def replayCap : Nat := 100000

structure PendingDelivery where
  actorUrl : String
  scheme : SignatureScheme
  body : Bytes
  receivedAt : Nat
  deriving DecidableEq

inductive WebFingerError where
  | notFound (actor : String)
  | network (reason : String)
  | malformed (reason : String)
  deriving DecidableEq

structure InboxConfig where
  rsa : Rsa
  parseUrl : String → Except String Url
  maxBodyBytes : Nat
  maxDateSkew : Nat

def InboxConfig.default (rsa : Rsa) (parseUrl : String → Except String Url) : InboxConfig :=
  ⟨rsa, parseUrl, 1024 * 1024, 300 * second⟩

/-- What the gates of one request read around them. -/
structure Surroundings where
  now : Nat
  rateAllows : String → Bool
  isBlockedActor : String → Bool
  resolvePubkeyPem : String → Except WebFingerError String
  receivedAt : Nat
  enqueue : PendingDelivery → Bool

structure Refusal where
  error : InboxError
  invalidated : Option String
  deriving DecidableEq

def refuse (error : InboxError) : Refusal := ⟨error, none⟩

def extractionError (reason : DropReason) : InboxError :=
  match reason with
  | .missingHeader _ => .badRequest reason
  | .missingKeyId => .badRequest reason
  | _ => .unauthorized reason

def verifyError (reason : DropReason) : InboxError :=
  match reason with
  | .unsupportedAlgorithm => .forbidden reason
  | _ => .unauthorized reason

def preflight (inbox : InboxConfig) (around : Surroundings) (headers : HeaderMap) (body : Bytes) :
    Except Refusal (InboxSignatureContext × SignatureScheme) := do
  require (body.length ≤ inbox.maxBodyBytes) (refuse .payloadTooLarge)
  let ctx ← (extractInboxSignatureContext headers "/inbox").mapError
    fun reason => refuse (extractionError reason)
  (checkDateSkew ctx.date around.now inbox.maxDateSkew).mapError
    fun reason => refuse (.badRequest reason)
  let instanceName ← okOr (parseInstance inbox.parseUrl ctx.keyId)
    (refuse (.badRequest .missingKeyId))
  require (around.rateAllows instanceName)
    (refuse (.tooManyRequests (.rateLimited instanceName)))
  let actorUrl := stripKeyidFragment ctx.keyId
  require (!around.isBlockedActor actorUrl) (refuse (.forbidden (.denylisted actorUrl)))
  let pubkeyPem ← (around.resolvePubkeyPem ctx.keyId).mapError
    fun _ => refuse (.unauthorized .webFingerLookupFailed)
  let scheme ← (verifyInboxRequest inbox.rsa pubkeyPem ctx body).mapError
    fun reason => ⟨verifyError reason, some ctx.keyId⟩
  .ok (ctx, scheme)

/-- What the sink is handed, with the context it was verified under. -/
structure Handover where
  ctx : InboxSignatureContext
  delivery : PendingDelivery
  deriving DecidableEq

structure Verdict where
  result : Except InboxError Unit
  handover : Option Handover
  invalidated : Option String
  replay : ReplayWindow

def handoverOf (around : Surroundings) (ctx : InboxSignatureContext) (scheme : SignatureScheme)
    (body : Bytes) : Handover :=
  ⟨ctx, ⟨stripKeyidFragment ctx.keyId, scheme, body, around.receivedAt⟩⟩

def settle (around : Surroundings) (replay : ReplayWindow) (instant : Nat)
    (ctx : InboxSignatureContext) (scheme : SignatureScheme) (body : Bytes) : Verdict :=
  match replay.record ctx.replayKey instant with
  | (false, replay') => ⟨.error (.unauthorized .replay), none, none, replay'⟩
  | (true, replay') =>
    let handover := handoverOf around ctx scheme body
    if around.enqueue handover.delivery then ⟨.ok (), some handover, none, replay'⟩
    else ⟨.error (.serviceUnavailable .sinkRejected), some handover, none, replay'⟩

def runGates (inbox : InboxConfig) (around : Surroundings) (replay : ReplayWindow) (instant : Nat)
    (headers : HeaderMap) (body : Bytes) : Verdict :=
  match preflight inbox around headers body with
  | .error refusal => ⟨.error refusal.error, none, refusal.invalidated, replay⟩
  | .ok (ctx, scheme) => settle around replay instant ctx scheme body

section
variable {inbox : InboxConfig} {around : Surroundings} {headers : HeaderMap} {body : Bytes}

section
variable (h : preflight inbox around headers body = .ok (ctx, scheme))
include h

theorem preflight_date :
    ∃ moment, parseImfFixdate ctx.date = some moment := by
  simp only [preflight, bind_eq_ok, mapError_eq_ok, checkDateSkew, okOr_eq_ok] at h
  obtain ⟨_, _, found, _, _, ⟨moment, parsed, _⟩, _, _, _, _, _, _, _, _, _, _, h⟩ := h
  cases h
  exact ⟨moment, parsed⟩

theorem preflight_ctx :
    extractInboxSignatureContext headers "/inbox" = .ok ctx := by
  simp only [preflight, bind_eq_ok, mapError_eq_ok] at h
  obtain ⟨_, _, found, extracted, _, _, _, _, _, _, _, _, _, _, _, _, h⟩ := h
  cases h
  exact extracted

theorem preflight_unblocked :
    around.isBlockedActor (stripKeyidFragment ctx.keyId) = false := by
  simp only [preflight, bind_eq_ok] at h
  obtain ⟨_, _, found, _, _, _, _, _, _, _, _, open_, _, _, _, _, h⟩ := h
  cases h
  simpa using open_

end

theorem extractionError_status (reason : DropReason) : (extractionError reason).status ≠ 503 := by
  unfold extractionError
  split <;> simp [InboxError.badRequest, InboxError.unauthorized]

theorem verifyError_status (reason : DropReason) : (verifyError reason).status ≠ 503 := by
  unfold verifyError
  split <;> simp [InboxError.forbidden, InboxError.unauthorized]

theorem preflight_status
    (h : preflight inbox around headers body = .error refusal) : refusal.error.status ≠ 503 := by
  simp only [preflight, bind_eq_error, mapError_eq_error] at h
  rcases h with large | ⟨_, _, ⟨reason, _, rfl⟩ | ⟨_, _, ⟨_, _, rfl⟩ | ⟨_, _, keyless | ⟨_, _,
    limited | ⟨_, _, blocked | ⟨_, _, ⟨_, _, rfl⟩ | ⟨_, _, ⟨reason, _, rfl⟩ | ⟨_, _, h⟩⟩⟩⟩⟩⟩⟩⟩
  · rw [← require_eq_error large]
    decide
  · exact extractionError_status reason
  · simp [refuse, InboxError.badRequest]
  · rw [← okOr_eq_error keyless]
    decide
  · rw [← require_eq_error limited]
    simp [refuse, InboxError.tooManyRequests]
  · rw [← require_eq_error blocked]
    simp [refuse, InboxError.forbidden]
  · decide
  · exact verifyError_status reason
  · cases h

variable {replay : ReplayWindow} {instant : Nat} {ctx : InboxSignatureContext}
  {scheme : SignatureScheme}

theorem settle_replay : (settle around replay instant ctx scheme body).replay =
    (replay.record ctx.replayKey instant).2 := by
  unfold settle
  split
  · rename_i heq
    rw [heq]
  · rename_i heq
    dsimp only
    split <;> rw [heq]

theorem settle_handover : (settle around replay instant ctx scheme body).handover =
    if (replay.record ctx.replayKey instant).1 then some (handoverOf around ctx scheme body)
    else none := by
  unfold settle
  split
  · rename_i heq
    rw [heq]
    rfl
  · rename_i heq
    rw [heq]
    dsimp only
    split <;> rfl

theorem settle_ok : (settle around replay instant ctx scheme body).result = .ok () ↔
    (replay.record ctx.replayKey instant).1 = true ∧
      around.enqueue (handoverOf around ctx scheme body).delivery = true := by
  unfold settle
  split
  · rename_i heq
    rw [heq]
    simp
  · dsimp only
    split <;> simp_all

theorem settle_rejected
    (h : (settle around replay instant ctx scheme body).result =
      .error (.serviceUnavailable .sinkRejected)) :
    (replay.record ctx.replayKey instant).1 = true := by
  unfold settle at h
  split at h
  · cases h
  · rename_i heq
    rw [heq]

theorem runGates_of_error (h : preflight inbox around headers body = .error refusal) :
    runGates inbox around replay instant headers body =
      ⟨.error refusal.error, none, refusal.invalidated, replay⟩ := by
  unfold runGates
  rw [h]

theorem runGates_of_ok (h : preflight inbox around headers body = .ok (ctx, scheme)) :
    runGates inbox around replay instant headers body =
      settle around replay instant ctx scheme body := by
  unfold runGates
  rw [h]

end

def exampleUrl (text : String) : Except String Url :=
  .ok ⟨text, "https", some "remote.example", none, "/users/eve"⟩

def exampleInbox : InboxConfig := .default exampleRsa exampleUrl

def exampleSurroundings (now : Nat) : Surroundings where
  now := now
  rateAllows := fun _ => true
  isBlockedActor := fun _ => false
  resolvePubkeyPem := fun _ => .ok "k"
  receivedAt := now
  enqueue := fun _ => true

def exampleHeaders (signatureInput date : String) : HeaderMap :=
  [("host", some "relay.example"), ("date", some date), ("content-digest", some "sha-256=:aGk=:"),
    ("signature-input", some signatureInput), ("signature", some "sig1=:aw==:")]

def exampleBody : Bytes := utf8 "hi"

end Fetchit.Relay.Inbox
