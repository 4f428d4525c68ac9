import Fetchit.Fedi.HttpDate
import Fetchit.Fedi.HttpSignature

/-! Outbound delivery of an activity. A call signs once in the preferred format and posts with
retries; a 401 makes it sign once more in the other format. The call is a machine that moves each
time a post ends. -/
namespace Fetchit.Fedi.Transport
open Lib Lib.Outcome Json HttpDate HttpSignature

inductive SignatureFormat where
  | cavage
  | rfc9421
  deriving DecidableEq

def flipFormat : SignatureFormat → SignatureFormat
  | .cavage => .rfc9421
  | .rfc9421 => .cavage

inductive OutboundSignedHeaders where
  | rfc9421 (headers : SignedHeaders)
  | cavage (headers : CavageSignedHeaders)
  deriving DecidableEq

def OutboundSignedHeaders.format : OutboundSignedHeaders → SignatureFormat
  | .rfc9421 _ => .rfc9421
  | .cavage _ => .cavage

def OutboundSignedHeaders.intoRequestHeaders : OutboundSignedHeaders → List (String × String)
  | .rfc9421 headers =>
    [("Date", headers.date), ("Content-Digest", headers.contentDigest),
      ("Signature-Input", headers.signatureInput), ("Signature", headers.signature)]
  | .cavage headers =>
    [("Date", headers.date), ("Digest", headers.digest), ("Signature", headers.signature)]

def capabilityCacheTtl : Nat := 24 * 60 * 60 * second

structure CapabilityEntry where
  format : SignatureFormat
  observedAt : Nat
  deriving DecidableEq

abbrev SignatureCapabilityCache := List (String × CapabilityEntry)

/-- An observation from the future does not count. -/
def SignatureCapabilityCache.preference (cache : SignatureCapabilityCache) (origin : String)
    (now : Nat) : Option SignatureFormat := do
  let entry ← cache.lookup origin
  if entry.observedAt ≤ now ∧ now - entry.observedAt < capabilityCacheTtl then some entry.format
  else none

def inboxOrigin (url : Destination) : Option String :=
  url.hostStr.map fun host =>
    match url.port with
    | some port => url.scheme ++ "://" ++ host ++ ":" ++ toString port
    | none => url.scheme ++ "://" ++ host

def createdUnix (now : Nat) : Int :=
  if now / second < 2 ^ 63 then (now / second : Nat) else 2 ^ 63 - 1

def signPostWithFormatKeyed (rsa : Rsa) (signingKey : Bytes) (keyId : String) (url : Destination)
    (body : Bytes) (dateHeader : String) (now : Nat) (format : SignatureFormat) :
    Except HttpSignatureError OutboundSignedHeaders :=
  match format with
  | .rfc9421 =>
    (signPostRfc9421WithKey rsa signingKey keyId url body dateHeader (createdUnix now)).map
      .rfc9421
  | .cavage => (signPostCavageWithKey rsa signingKey keyId url body dateHeader).map .cavage

def signPostWithPreferenceKeyed (rsa : Rsa) (signingKey : Bytes) (keyId : String)
    (url : Destination) (body : Bytes) (dateHeader : String) (now : Nat)
    (cache : SignatureCapabilityCache) (fallback : SignatureFormat) :
    Except HttpSignatureError OutboundSignedHeaders :=
  let format := ((inboxOrigin url).bind fun origin => cache.preference origin now).getD fallback
  signPostWithFormatKeyed rsa signingKey keyId url body dateHeader now format

structure HttpSignatureKey where
  keyId : String
  rsaPrivatePem : String
  deriving DecidableEq

abbrev SigningKeyCache := List (String × Bytes)

def SigningKeyCache.getOrDecode (cache : SigningKeyCache) (rsa : Rsa) (key : HttpSignatureKey) :
    Except HttpSignatureError (Bytes × SigningKeyCache) :=
  match cache.lookup key.keyId with
  | some signingKey => .ok (signingKey, cache)
  | none => do
      let signingKey ← (rsa.privateKey key.rsaPrivatePem).mapError .invalidPrivateKey
      .ok (signingKey, (key.keyId, signingKey) :: cache)

def validateAddress (hostless wrongScheme : String) (url : Url) : Except String Unit := do
  require url.hostStr.isSome (hostless ++ url.asStr)
  require (url.scheme == "https" || url.scheme == "http")
    (wrongScheme ++ url.scheme ++ " is not http(s): " ++ url.asStr)

def validateDeliveryUrl (inbox : Destination) (actorUrl : Url) : Except String Unit := do
  validateAddress "destination has no host: " "destination scheme " inbox.toUrl
  validateAddress "actor URL has no host: " "actor URL scheme " actorUrl

inductive DeliveryError where
  | invalidDeliveryUrl (reason : String)
  | signature (error : HttpSignatureError)
  | http (reason : String)
  | clientError (status : Nat)
  | serverError (status attempts : Nat)
  | bothFormatsRejected
  deriving DecidableEq

structure DeliveryReport where
  formatUsed : SignatureFormat
  status : Nat
  attempts : Nat
  deriving DecidableEq

inductive DeliveryOutcome where
  | success (status : Nat)
  | unauthorized
  | clientError (status : Nat)
  | serverError (status : Nat)
  | network (reason : String)
  deriving DecidableEq

def maxDeliveryAttempts : Nat := 3

def outcomeOf : Except String Nat → DeliveryOutcome
  | .error reason => .network reason
  | .ok status =>
    if 200 ≤ status ∧ status < 300 then .success status
    else if status = 401 then .unauthorized
    else if 400 ≤ status ∧ status < 500 then .clientError status
    else .serverError status

structure Call where
  rsa : Rsa
  signingKey : Bytes
  keyId : String
  body : Bytes
  inboxUrl : Destination
  now : Nat
  primary : OutboundSignedHeaders

def Call.dateHeader (call : Call) : String := formatImfFixdate call.now

/-- Where a call waits: for the answer to an attempt in the first format, or in the other one. -/
inductive Phase where
  | posting (attempt : Nat)
  | flipped (secondary : OutboundSignedHeaders)
  | done (result : Except DeliveryError DeliveryReport)

def startDelivery (rsa : Rsa) (keys : SigningKeyCache) (cache : SignatureCapabilityCache)
    (fallback : SignatureFormat) (key : HttpSignatureKey) (body : Bytes) (inboxUrl : Destination)
    (actorUrl : Url) (now : Nat) : Except DeliveryError (Call × SigningKeyCache) := do
  (validateDeliveryUrl inboxUrl actorUrl).mapError .invalidDeliveryUrl
  let (signingKey, keys') ← (keys.getOrDecode rsa key).mapError .signature
  let primary ← (signPostWithPreferenceKeyed rsa signingKey key.keyId inboxUrl body
    (formatImfFixdate now) now cache fallback).mapError .signature
  .ok (⟨rsa, signingKey, key.keyId, body, inboxUrl, now, primary⟩, keys')

def Call.signSecondary (call : Call) : Except HttpSignatureError OutboundSignedHeaders :=
  signPostWithFormatKeyed call.rsa call.signingKey call.keyId call.inboxUrl call.body
    call.dateHeader call.now (flipFormat call.primary.format)

def retryOr (attempt : Nat) (error : DeliveryError) : Phase :=
  if attempt < maxDeliveryAttempts then .posting (attempt + 1) else .done (.error error)

def Call.afterPrimary (call : Call) (attempt : Nat) : DeliveryOutcome → Phase
  | .success status => .done (.ok ⟨call.primary.format, status, attempt⟩)
  | .unauthorized =>
    match call.signSecondary with
    | .ok secondary => .flipped secondary
    | .error error => .done (.error (.signature error))
  | .clientError status => .done (.error (.clientError status))
  | .serverError status => retryOr attempt (.serverError status maxDeliveryAttempts)
  | .network reason => retryOr attempt (.http reason)

def Call.afterSecondary (call : Call) : DeliveryOutcome → Phase
  | .success status => .done (.ok ⟨flipFormat call.primary.format, status, 2⟩)
  | .unauthorized => .done (.error .bothFormatsRejected)
  | .clientError status => .done (.error (.clientError status))
  | .serverError status => .done (.error (.serverError status 2))
  | .network reason => .done (.error (.http reason))

def Call.advance (call : Call) (phase : Phase) (answer : Except String Nat) : Phase :=
  match phase with
  | .posting attempt => call.afterPrimary attempt (outcomeOf answer)
  | .flipped _ => call.afterSecondary (outcomeOf answer)
  | .done result => .done result

def Call.posts (call : Call) : Phase → Option OutboundSignedHeaders
  | .posting _ => some call.primary
  | .flipped secondary => some secondary
  | .done _ => none

theorem afterPrimary_flipped {call : Call}
    (h : call.afterPrimary attempt outcome = .flipped secondary) : outcome = .unauthorized := by
  cases outcome with
  | unauthorized => rfl
  | serverError status | network reason =>
    simp only [Call.afterPrimary, retryOr] at h
    split at h <;> cases h
  | success status | clientError status => cases h

theorem afterSecondary_done (call : Call) (outcome : DeliveryOutcome) :
    ∃ result, call.afterSecondary outcome = .done result := by
  cases outcome <;> exact ⟨_, rfl⟩

theorem outcomeOf_unauthorized (h : outcomeOf answer = .unauthorized) : answer = .ok 401 := by
  cases answer with
  | error reason => cases h
  | ok status =>
    unfold outcomeOf at h
    dsimp only at h
    split at h
    · cases h
    · split at h
      · rename_i same
        rw [same]
      · split at h <;> cases h

/-! ### The attempts a call reports -/

/-- One more post, if the call makes one. The first component counts the posts. -/
def Call.post (call : Call) (answers : Nat → Except String Nat) (state : Nat × Phase) :
    Nat × Phase :=
  match call.posts state.2 with
  | some _ => (state.1 + 1, call.advance state.2 (answers state.1))
  | none => state

def Call.deliver (call : Call) (answers : Nat → Except String Nat) : Nat × Phase :=
  (call.post answers)^[maxDeliveryAttempts + 1] (0, .posting 1)

def reportedAttempts : Except DeliveryError DeliveryReport → Option Nat
  | .ok report => some report.attempts
  | .error (.serverError _ attempts) => some attempts
  | .error _ => none

section
variable (answers : Nat → Except String Nat)

def NoLate401 (posts : Nat) : Prop :=
  ∀ earlier < posts, 0 < earlier → answers earlier ≠ .ok 401

inductive Progress : Nat → Nat × Phase → Prop where
  | posting (retried : ∀ earlier < posts, answers earlier ≠ .ok 401)
    (within : posts < maxDeliveryAttempts) : Progress posts (posts, .posting (posts + 1))
  | flipped (refused : answers posts = .ok 401) (within : posts < maxDeliveryAttempts) :
    Progress (posts + 1) (posts + 1, .flipped secondary)
  | done (counts : ∀ attempts, reportedAttempts result = some attempts →
      (attempts = posts ↔ NoLate401 answers posts)) : Progress steps (posts, .done result)

variable {answers}

theorem ne_401 (h : outcomeOf answer = outcome) (other : outcome ≠ .unauthorized) :
    answer ≠ .ok 401 := by
  rintro rfl
  exact other h.symm

theorem forall_lt_succ_ne (retried : ∀ earlier < posts, answers earlier ≠ .ok 401)
    (h : outcomeOf (answers posts) = outcome) (other : outcome ≠ .unauthorized) :
    ∀ earlier < posts + 1, answers earlier ≠ .ok 401 := by
  intro earlier before
  rcases Nat.lt_succ_iff_lt_or_eq.mp before with before | rfl
  · exact retried earlier before
  · exact ne_401 h other

theorem Progress.afterPrimary (call : Call)
    (retried : ∀ earlier < posts, answers earlier ≠ .ok 401)
    (within : posts < maxDeliveryAttempts) (h : outcomeOf (answers posts) = outcome) :
    Progress answers (posts + 1) (posts + 1, call.afterPrimary (posts + 1) outcome) := by
  have again (error) (other : outcome ≠ .unauthorized)
      (last : ∀ attempts, reportedAttempts (.error error) = some attempts →
        attempts = maxDeliveryAttempts) :
      Progress answers (posts + 1) (posts + 1, retryOr (posts + 1) error) := by
    have retried := forall_lt_succ_ne retried h other
    unfold retryOr
    split
    · exact .posting retried ‹_›
    · refine .done ?_
      intro attempts reported
      have := last attempts reported
      exact iff_of_true (by omega) (fun earlier before _ => retried earlier before)
  cases outcome with
  | success status =>
    refine .done ?_
    rintro _ ⟨⟩
    exact iff_of_true rfl fun earlier before _ => forall_lt_succ_ne retried h (by simp) _ before
  | unauthorized =>
    unfold Call.afterPrimary
    cases call.signSecondary with
    | ok secondary => exact .flipped (outcomeOf_unauthorized h) within
    | error error => exact .done (by rintro _ ⟨⟩)
  | clientError status => exact .done (by rintro _ ⟨⟩)
  | serverError status => exact again _ (by simp) (by rintro _ ⟨⟩; rfl)
  | network reason => exact again _ (by simp) (by rintro _ ⟨⟩)

theorem Progress.afterSecondary (call : Call) (refused : answers posts = .ok 401)
    (h : outcomeOf (answers (posts + 1)) = outcome) :
    Progress answers (posts + 2) (posts + 2, call.afterSecondary outcome) := by
  -- the other format reports two attempts, right when the 401 answered the very first post
  have two (other : outcome ≠ .unauthorized) : 2 = posts + 2 ↔ NoLate401 answers (posts + 2) := by
    constructor
    · intro first earlier before pos
      have : earlier = posts + 1 := by omega
      rw [this]
      exact ne_401 h other
    · intro others
      by_contra more
      exact others posts (by omega) (by omega) refused
  cases outcome with
  | success status | serverError status =>
    refine .done ?_
    rintro _ ⟨⟩
    exact two (by simp)
  | unauthorized | clientError status | network reason => exact .done (by rintro _ ⟨⟩)

theorem Progress.post (call : Call) (progress : Progress answers steps state) :
    Progress answers (steps + 1) (call.post answers state) := by
  cases progress with
  | posting retried within => exact .afterPrimary call retried within rfl
  | flipped refused within => exact .afterSecondary call refused rfl
  | done counts => exact .done counts

end

/-- Every call returns, and the attempts it reports are its posts if no post after the first was
answered with a 401, and only then. -/
theorem attempts_eq_posts_iff (call : Call) (answers : Nat → Except String Nat) :
    ∃ posts result, call.deliver answers = (posts, .done result) ∧
      ∀ attempts, reportedAttempts result = some attempts →
        (attempts = posts ↔ ∀ earlier < posts, 0 < earlier → answers earlier ≠ .ok 401) := by
  have progress : ∀ steps, Progress answers steps ((call.post answers)^[steps] (0, .posting 1)) := by
    intro steps
    induction steps with
    | zero => exact .posting (by simp) (by decide)
    | succ steps ih =>
      rw [Function.iterate_succ_apply']
      exact ih.post call
  generalize last : call.deliver answers = state
  have ended := progress (maxDeliveryAttempts + 1)
  rw [show (call.post answers)^[maxDeliveryAttempts + 1] (0, .posting 1) = state from last] at ended
  cases ended with
  | posting retried within => exact absurd within (by decide)
  | flipped refused within => exact absurd within (by decide)
  | done counts => exact ⟨_, _, rfl, counts⟩

/-- An error of the server, a refusal of the first format and a success of the other one are
three posts, reported as two. -/
theorem flip_after_retry_miscounted :
    let answers : Nat → Except String Nat := fun post => .ok ([503, 401, 200].getD post 0)
    let inbox : Url :=
      ⟨"https://relay.example/inbox", "https", some "relay.example", none, "/inbox"⟩
    ((startDelivery exampleRsa [] [] .cavage ⟨"u#k", "k"⟩ [] ⟨inbox, none⟩ inbox
        (784111777 * second)).map fun started => started.1.deliver answers) =
      .ok (3, .done (.ok ⟨.rfc9421, 200, 2⟩)) := by
  rfl

end Fetchit.Fedi.Transport
