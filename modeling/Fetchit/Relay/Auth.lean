import Fetchit.Lib.Outcome
import Fetchit.Lib.Past
import Fetchit.Proto.Identity

/-! Challenges and bearer tokens. A verification takes its challenge out of the pending ones before
it checks the response, so that a challenge is good for one response. -/
namespace Fetchit.Relay.Auth
open Lib Lib.Outcome Lib.Run Lib.Past Proto.Identity Function

abbrev Challenge := Vector UInt8 32

structure AuthTokenState where
  agentId : AgentId
  agentPublicKey : Bytes
  expiresAt : Nat
  deriving DecidableEq

structure AuthVerifyRequest where
  agentId : AgentId
  agentPublicKey : Bytes
  challenge : Challenge
  signature : Bytes

structure AuthService where
  pending : Challenge → Option Nat
  tokens : String → Option AuthTokenState

/-- The lifetimes of challenges and tokens, and what checks a signature. -/
structure Settings where
  challengeTtl : Nat
  bearerTtl : Nat
  crypto : Crypto
  verifyMlDsa65 (publicKey message signature : Bytes) : Bool

def authChallengeDomain : String := "fetchit-relay/v1/auth/challenge\x00"

def authSigningBytes (challenge : Challenge) : Bytes := utf8 authChallengeDomain ++ challenge.toList

section
variable (settings : Settings)

def issueChallenge (service : AuthService) (drawn : Challenge) (now : Nat) : AuthService :=
  { service with
    pending := update service.pending drawn (some (now + settings.challengeTtl)) }

def checkResponse (service : AuthService) (request : AuthVerifyRequest) (now : Nat) :
    Except String AuthTokenState := do
  let expiresAt ← okOr (service.pending request.challenge) "unknown challenge"
  require (now < expiresAt) "challenge expired"
  require (deriveAgentId settings.crypto request.agentPublicKey == request.agentId)
    "public_key does not match agent_id"
  require (settings.verifyMlDsa65 request.agentPublicKey
    (agentSignInput (authSigningBytes request.challenge)) request.signature)
    "signature verification failed"
  .ok ⟨request.agentId, request.agentPublicKey, now + settings.bearerTtl⟩

/-- The challenge is gone also if the response is rejected. -/
def verify (service : AuthService) (request : AuthVerifyRequest) (now : Nat) (token : String) :
    Except String String × AuthService :=
  let pending := update service.pending request.challenge none
  match checkResponse settings service request now with
  | .error reason => (.error reason, { service with pending })
  | .ok session =>
    (.ok token, { pending, tokens := update service.tokens token (some session) })

def validateBearer (service : AuthService) (token : String) (now : Nat) :
    Option AuthTokenState × AuthService :=
  match (service.tokens token).filter (now < ·.expiresAt) with
  | some session => (some session, service)
  | none => (none, { service with tokens := update service.tokens token none })

def sweepExpired (service : AuthService) (now : Nat) : AuthService where
  pending challenge := (service.pending challenge).filter (now < ·)
  tokens token := (service.tokens token).filter (now < ·.expiresAt)

inductive Call where
  | issue (drawn : Challenge) (now : Nat)
  | verify (request : AuthVerifyRequest) (now : Nat) (token : String)
  | validate (token : String) (now : Nat)
  | sweep (now : Nat)

def step (service : AuthService) : Call → AuthService
  | .issue drawn now => issueChallenge settings service drawn now
  | .verify request now token => (verify settings service request now token).2
  | .validate token now => (validateBearer service token now).2
  | .sweep now => sweepExpired service now

def start : AuthService := ⟨fun _ => none, fun _ => none⟩

/-- The response is signed with the key of its agent over a challenge that has not expired. -/
structure Answers (service : AuthService) (request : AuthVerifyRequest) (now : Nat) : Prop where
  pending : ∃ expiresAt, service.pending request.challenge = some expiresAt ∧ now < expiresAt
  derived : deriveAgentId settings.crypto request.agentPublicKey = request.agentId
  signed : settings.verifyMlDsa65 request.agentPublicKey
    (agentSignInput (authSigningBytes request.challenge)) request.signature = true

variable {settings}

theorem checkResponse_eq_ok :
    checkResponse settings service request now = .ok session ↔
      Answers settings service request now ∧
      session = ⟨request.agentId, request.agentPublicKey, now + settings.bearerTtl⟩ := by
  simp only [checkResponse, bind_eq_ok, okOr_eq_ok, require_eq_ok, beq_iff_eq, decide_eq_true_eq]
  constructor
  · rintro ⟨expiresAt, pending, _, unexpired, _, derived, _, signed, made⟩
    cases made
    exact ⟨⟨⟨expiresAt, pending, unexpired⟩, derived, signed⟩, rfl⟩
  · rintro ⟨⟨⟨expiresAt, pending, unexpired⟩, derived, signed⟩, rfl⟩
    exact ⟨expiresAt, pending, (), unexpired, (), derived, (), signed, rfl⟩

variable {calls : List Call} {challenge : Challenge} {token : String} {session : AuthTokenState}

def Stored (token : String) (session : AuthTokenState) (service : AuthService) : Prop :=
  service.tokens token = some session

def Pending (challenge : Challenge) (expiresAt : Nat) (service : AuthService) : Prop :=
  service.pending challenge = some expiresAt

def Takes (challenge : Challenge) : Call → Prop
  | .verify request .. => request.challenge = challenge
  | _ => False

def Mints (settings : Settings) (token : String) (session : AuthTokenState)
    (service : AuthService) (call : Call) : Prop :=
  ∃ request now, call = .verify request now token ∧
    checkResponse settings service request now = .ok session

theorem minted_of_stored (stored : Stored token session (run (step settings) start calls)) :
    Took (step settings) start (Mints settings token session) calls := by
  have begins : ¬ Stored token session start := nofun
  refine brought_about begins ?_ calls stored
  intro service call later
  unfold Stored at later ⊢
  cases call with
  | issue => exact .inl later
  | verify request now other =>
    simp only [step, verify] at later
    split at later
    · exact .inl later
    · next checked =>
      simp only [update_apply] at later
      split at later
      · next same =>
        cases later
        exact .inr ⟨request, now, by rw [same], checked⟩
      · exact .inl later
  | validate other now =>
    simp only [step, validateBearer] at later
    split at later
    · exact .inl later
    · simp only [update_apply] at later
      split at later
      · cases later
      · exact .inl later
  | sweep now => exact .inl (Option.filter_eq_some_iff.mp later).1

theorem issued_of_pending (absent : service.pending challenge = none)
    (pending : Pending challenge expiresAt (run (step settings) service calls)) :
    ∃ early now late, calls = early ++ .issue challenge now :: late ∧
      expiresAt = now + settings.challengeTtl ∧ ∀ later ∈ late, ¬ Takes challenge later := by
  have begins : ¬ Pending challenge expiresAt service := by simp [Pending, absent]
  have steps : ∀ service call, Pending challenge expiresAt (step settings service call) →
      Pending challenge expiresAt service ∧ ¬ Takes challenge call ∨
        ∃ now, call = .issue challenge now ∧ expiresAt = now + settings.challengeTtl := by
    intro service call later
    unfold Pending at later ⊢
    cases call with
    | issue drawn now =>
      simp only [step, issueChallenge, update_apply] at later
      split at later
      · next same =>
        cases later
        exact .inr ⟨now, by rw [same], rfl⟩
      · exact .inl ⟨later, not_false⟩
    | verify request now token =>
      have taken : update service.pending request.challenge none challenge =
          some expiresAt := by
        simp only [step, verify] at later
        split at later <;> exact later
      rw [update_apply] at taken
      split at taken
      · cases taken
      · next other => exact .inl ⟨taken, Ne.symm other⟩
    | validate other now =>
      simp only [step, validateBearer] at later
      split at later <;> exact .inl ⟨later, not_false⟩
    | sweep => exact .inl ⟨(Option.filter_eq_some_iff.mp later).1, not_false⟩
  obtain ⟨early, _, late, split, ⟨now, rfl, lifetime⟩, since⟩ :=
    brought_about_since begins steps calls pending
  exact ⟨early, now, late, split, lifetime, since⟩

/-- A valid token was minted by a verification of a response that is signed with the key of the
session's agent, over a challenge that had been issued, had not expired and had not been taken
before. The same challenge mints another token only after it has been issued again. -/
theorem bearer_authenticated (settings : Settings) (calls : List Call) (token : String)
    (now : Nat) (session : AuthTokenState)
    (valid : (validateBearer (run (step settings) start calls) token now).1 = some session) :
    now < session.expiresAt ∧
      (∃ first issuedAt between request at_ after,
        calls = first ++ .issue request.challenge issuedAt :: between ++
          .verify request at_ token :: after ∧
        (∀ call ∈ between, ¬ Takes request.challenge call) ∧
        at_ < issuedAt + settings.challengeTtl ∧
        Answers settings (run (step settings) start
          (first ++ .issue request.challenge issuedAt :: between)) request at_ ∧
        session = ⟨request.agentId, request.agentPublicKey, at_ + settings.bearerTtl⟩) ∧
      ∀ early request at_ minted between other again later after,
        calls = early ++ .verify request at_ minted :: between ++
          .verify other again later :: after → other.challenge = request.challenge →
        Answers settings (run (step settings) start
          (early ++ .verify request at_ minted :: between)) other again →
        ∃ issuedAt, .issue request.challenge issuedAt ∈ between := by
  have found : (Option.filter (now < ·.expiresAt)
      ((run (step settings) start calls).tokens token)) = some session := by
    unfold validateBearer at valid
    split at valid
    · next found => exact found.trans valid
    · cases valid
  obtain ⟨stored, alive⟩ := Option.filter_eq_some_iff.mp found
  refine ⟨of_decide_eq_true alive, ?_, ?_⟩
  · obtain ⟨early, _, after, rfl, request, at_, rfl, checked⟩ := minted_of_stored stored
    obtain ⟨answers, made⟩ := checkResponse_eq_ok.mp checked
    obtain ⟨expiresAt, pending, unexpired⟩ := answers.pending
    obtain ⟨first, issuedAt, between, rfl, rfl, since⟩ := issued_of_pending rfl pending
    exact ⟨first, issuedAt, between, request, at_, after, rfl, since, unexpired, answers, made⟩
  · intro early request at_ minted between other again later after _ same answers
    obtain ⟨expiresAt, pending, _⟩ := answers.pending
    rw [same, List.append_cons, run_append] at pending
    have taken : (run (step settings) start (early ++ [.verify request at_ minted])).pending
        request.challenge = none := by
      simp only [run_append, run_cons, step, verify]
      split <;> simp
    obtain ⟨before, issuedAt, rest, rfl, _⟩ := issued_of_pending taken pending
    exact ⟨issuedAt, by simp⟩

end

/-! Two agents, of whom the first answers a challenge, and the second answers with a signature that
does not verify. -/

def challengeOf (byte : UInt8) : Challenge := Vector.replicate 32 byte

def response (key : Bytes) (byte : UInt8) : AuthVerifyRequest :=
  ⟨deriveAgentId (idealCrypto []) key, key, challengeOf byte, key⟩

def answeredOnce : Settings where
  challengeTtl := 2
  bearerTtl := 5
  crypto := idealCrypto []
  verifyMlDsa65 publicKey message signature :=
    signature == publicKey &&
      (publicKey, message) == ([1], agentSignInput (authSigningBytes (challengeOf 7)))

def twoResponses : List Call :=
  [.issue (challengeOf 7) 0, .issue (challengeOf 8) 0, .verify (response [1] 7) 1 "t",
    .verify (response [2] 8) 1 "u", .sweep 4]

theorem response_authenticated :
    (validateBearer (run (step answeredOnce) start twoResponses) "t" 5).1 =
      some ⟨(response [1] 7).agentId, [1], 6⟩ ∧
    (validateBearer (run (step answeredOnce) start twoResponses) "u" 5).1.isNone ∧ 5 < 6 := by
  have valid : (validateBearer (run (step answeredOnce) start twoResponses) "t" 5).1 =
      some ⟨(response [1] 7).agentId, [1], 6⟩ := by
    decide +kernel
  exact ⟨valid, by decide +kernel,
    (bearer_authenticated answeredOnce twoResponses "t" 5 _ valid).1⟩

end Fetchit.Relay.Auth
