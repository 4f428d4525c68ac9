import Fetchit.Proto.Envelope
import Fetchit.Relay.Inbox
import Fetchit.Trust.Index

/-! The production denylist gate and sink of the inbox: the gate looks the actor up in the signed
index, and the sink broadcasts the activity under the actor's canonical URL. -/
namespace Fetchit.Relay.Inbox
open Lib Lib.Outcome Fedi.HttpDate Proto.Envelope Trust

structure PublicPostPayload where
  verifiedActorUrl : String
  activityJson : Bytes
  deriving DecidableEq

/-- The broadcast frame; `encode` is the binary encoder of the payload. -/
structure PublicPost where
  kind : EnvelopeKind
  payload : PublicPostPayload
  ciphertext : Bytes
  timestampMs : Nat
  transitSeq : Nat
  deliveredAtMs : Nat
  deriving DecidableEq

def systemTimeToMs (moment : Nat) : Nat :=
  if moment / 1000000 < 2 ^ 64 then moment / 1000000 else 0

def publicPost (encode : PublicPostPayload → Option Bytes) (verifiedActorUrl : String)
    (activityJson : Bytes) (receivedMs : Nat) : Option PublicPost := do
  let payload : PublicPostPayload := ⟨verifiedActorUrl, activityJson⟩
  let ciphertext ← encode payload
  some ⟨.publicPost, payload, ciphertext, receivedMs, 0, receivedMs⟩

def broadcast (encode : PublicPostPayload → Option Bytes) (delivery : PendingDelivery) :
    Option PublicPost := do
  let target ← (TargetIdentity.tryNew .actorUrl delivery.actorUrl).toOption
  publicPost encode target.value delivery.body (systemTimeToMs delivery.receivedAt)

def Surroundings.guarded (around : Surroundings) (indexes : DenylistIndexes)
    (encode : PublicPostPayload → Option Bytes) : Surroundings :=
  { around with
    isBlockedActor := indexes.isBlocked .actorUrl
    enqueue := fun delivery => (broadcast encode delivery).isSome }

section
variable (around : Surroundings) (indexes : DenylistIndexes)
  (encode : PublicPostPayload → Option Bytes)

theorem guarded_isBlockedActor :
    (around.guarded indexes encode).isBlockedActor = indexes.isBlocked .actorUrl := rfl

theorem guarded_enqueue (delivery : PendingDelivery) :
    (around.guarded indexes encode).enqueue delivery = (broadcast encode delivery).isSome := by
  unfold Surroundings.guarded
  dsimp only

theorem handoverOf_guarded (ctx : InboxSignatureContext)
    (scheme : SignatureScheme) (body : Bytes) :
    handoverOf (around.guarded indexes encode) ctx scheme body =
      handoverOf around ctx scheme body := rfl

end

/-- A request, and everything around it but the denylist. -/
structure Submission where
  inbox : InboxConfig
  around : Surroundings
  encode : PublicPostPayload → Option Bytes
  replay : ReplayWindow
  instant : Nat
  headers : HeaderMap
  body : Bytes

def Submission.verdict (submission : Submission) (indexes : DenylistIndexes) : Verdict :=
  runGates submission.inbox (submission.around.guarded indexes submission.encode)
    submission.replay submission.instant submission.headers submission.body

def Submission.posted (submission : Submission) (indexes : DenylistIndexes) :
    Option PublicPost :=
  match (submission.verdict indexes).result with
  | .error _ => none
  | .ok () =>
    (submission.verdict indexes).handover.bind fun handover =>
      broadcast submission.encode handover.delivery

def loaded (entries : List TargetIdentity) : DenylistIndexes :=
  (DenylistIndexes.empty.replace .actorUrl (entries.map (·.value))).2

def Submission.actorUrl (submission : Submission) : Option String :=
  (extractInboxSignatureContext submission.headers "/inbox").toOption.map fun ctx =>
    stripKeyidFragment ctx.keyId

/-- No post goes out under an entry of any index built of checked entries. -/
def Submission.Respectful (submission : Submission) : Prop :=
  ∀ entries : List TargetIdentity,
    (∀ entry ∈ entries, ∃ raw, TargetIdentity.tryNew .actorUrl raw = .ok entry) →
    ∀ post, submission.posted (loaded entries) = some post →
      post.payload.verifiedActorUrl ∉ entries.map (·.value)

variable {post : PublicPost} {submission : Submission} {indexes : DenylistIndexes}

theorem broadcast_actor (h : broadcast encode delivery = some post) :
    ∃ target, TargetIdentity.tryNew .actorUrl delivery.actorUrl = .ok target ∧
      post.payload.verifiedActorUrl = target.value := by
  simp only [broadcast, publicPost, Option.bind_eq_bind, Option.bind_eq_some_iff] at h
  obtain ⟨target, built, _, _, h⟩ := h
  cases h
  refine ⟨target, ?_, rfl⟩
  cases tried : TargetIdentity.tryNew .actorUrl delivery.actorUrl with
  | error reason =>
    rw [tried] at built
    cases built
  | ok found =>
    rw [tried] at built
    cases built
    rfl

theorem posted_eq_some (h : submission.posted indexes = some post) :
    ∃ ctx scheme, preflight submission.inbox
        (submission.around.guarded indexes submission.encode) submission.headers
        submission.body = .ok (ctx, scheme) ∧
      (submission.replay.record ctx.replayKey submission.instant).1 = true ∧
      broadcast submission.encode
        (handoverOf submission.around ctx scheme submission.body).delivery = some post := by
  unfold Submission.posted Submission.verdict at h
  cases cleared : preflight submission.inbox
      (submission.around.guarded indexes submission.encode) submission.headers
      submission.body with
  | error refusal =>
    rw [runGates_of_error cleared] at h
    cases h
  | ok found =>
    obtain ⟨ctx, scheme⟩ := found
    rw [runGates_of_ok cleared] at h
    cases result : (settle (submission.around.guarded indexes submission.encode)
        submission.replay submission.instant ctx scheme submission.body).result with
    | error error =>
      rw [result] at h
      cases h
    | ok _ =>
      rw [result] at h
      obtain ⟨new, _⟩ := settle_ok.mp result
      simp only [settle_handover, if_pos new, Option.bind_some] at h
      exact ⟨ctx, scheme, rfl, new, h⟩

section
variable
  (cleared : preflight submission.inbox (submission.around.guarded indexes submission.encode)
    submission.headers submission.body = .ok (ctx, scheme))
include cleared

theorem posted_of (new : (submission.replay.record ctx.replayKey submission.instant).1 = true)
    (sent : broadcast submission.encode
      (handoverOf submission.around ctx scheme submission.body).delivery = some post) :
    submission.posted indexes = some post := by
  have accepted : (settle (submission.around.guarded indexes submission.encode)
      submission.replay submission.instant ctx scheme submission.body).result = .ok () := by
    refine settle_ok.mpr ⟨new, ?_⟩
    rw [handoverOf_guarded, guarded_enqueue, sent]
    rfl
  unfold Submission.posted Submission.verdict
  rw [runGates_of_ok cleared, accepted]
  simp only [settle_handover, if_pos new, Option.bind_some]
  exact sent

theorem preflight_guarded
    (unnamed : other.isBlocked .actorUrl (stripKeyidFragment ctx.keyId) = false) :
    preflight submission.inbox (submission.around.guarded other submission.encode)
      submission.headers submission.body = .ok (ctx, scheme) := by
  simp only [preflight, bind_eq_ok] at cleared ⊢
  obtain ⟨_, sized, found, extracted, _, dated, name, named, _, allowed, _, _, pem, resolved, used,
    verified, h⟩ := cleared
  cases h
  refine ⟨(), sized, ctx, extracted, (), dated, name, named, (), allowed, (), ?_, pem, resolved,
    scheme, verified, rfl⟩
  rw [guarded_isBlockedActor, unnamed]
  rfl

end

theorem isBlocked_loaded
    (checked : ∀ entry ∈ entries, ∃ raw, TargetIdentity.tryNew .actorUrl raw = .ok entry)
    (value : String) : (loaded entries).isBlocked .actorUrl value = true ↔
      Text.asciiLower value ∈ entries.map (·.value) := by
  have lower : (entries.map (·.value)).map Text.asciiLower = entries.map (·.value) := by
    rw [List.map_map]
    apply List.map_congr_left
    intro entry mem
    obtain ⟨raw, built⟩ := checked entry mem
    exact tryNew_actorUrl_lower built
  unfold loaded
  rw [isBlocked_replace, lower]

/-- A request that passes every other gate never goes out under a denylisted actor exactly when
the actor part of its key id has no trailing slash for the sink to strip: the gate looks that part
up with the slash, the sink broadcasts it without. -/
theorem respectful_iff_no_slash (submission : Submission) (post : PublicPost) (actorUrl : String)
    (passes : submission.posted (loaded []) = some post)
    (actor : submission.actorUrl = some actorUrl) :
    submission.Respectful ↔ strippedSlash (Text.asciiLower actorUrl) = none := by
  obtain ⟨ctx, scheme, cleared, new, sent⟩ := posted_eq_some passes
  have same : stripKeyidFragment ctx.keyId = actorUrl := by
    unfold Submission.actorUrl at actor
    rw [preflight_ctx cleared] at actor
    exact Option.some.inj actor
  obtain ⟨target, built, shown⟩ := broadcast_actor sent
  have built : TargetIdentity.tryNew .actorUrl actorUrl = .ok target := same ▸ built
  constructor
  · intro respectful
    by_contra slashed
    obtain ⟨rest, stripped⟩ := Option.ne_none_iff_exists'.mp slashed
    have checked : ∀ entry ∈ [target], ∃ raw, TargetIdentity.tryNew .actorUrl raw = .ok entry := by
      intro entry mem
      rw [List.mem_singleton.mp mem]
      exact ⟨actorUrl, built⟩
    have value : target.value = rest := by
      rw [(tryNew_actorUrl built).2, stripped]
      rfl
    have unnamed : (loaded [target]).isBlocked .actorUrl (stripKeyidFragment ctx.keyId) = false := by
      rw [← Bool.not_eq_true, isBlocked_loaded checked, same]
      simp only [List.map_singleton, List.mem_singleton]
      intro named
      exact strippedSlash_ne stripped (value ▸ named.symm)
    refine respectful [target] checked post (posted_of (preflight_guarded cleared unnamed) new sent)
      ?_
    rw [shown]
    exact List.mem_map_of_mem (List.mem_singleton_self target)
  · intro unslashed entries checked other posted listed
    obtain ⟨ctx', scheme', cleared', _, sent'⟩ := posted_eq_some posted
    have extracted := preflight_ctx cleared'
    rw [preflight_ctx cleared] at extracted
    cases extracted
    obtain ⟨target', built', shown'⟩ := broadcast_actor sent'
    have built' : TargetIdentity.tryNew .actorUrl actorUrl = .ok target' := same ▸ built'
    have unblocked := preflight_unblocked cleared'
    rw [guarded_isBlockedActor, ← Bool.not_eq_true, isBlocked_loaded checked, same] at unblocked
    rw [shown', (tryNew_actorUrl built').2, unslashed] at listed
    exact unblocked listed

def exampleSubmission (keyId : String) : Submission where
  inbox := exampleInbox
  around := exampleSurroundings (784111777 * second)
  encode := fun payload => some payload.activityJson
  replay := Window.empty replayWindowLength replayCap
  instant := 0
  headers := exampleHeaders ("sig1=();keyid=\"" ++ keyId ++ "\"") "Sun, 06 Nov 1994 08:49:37 GMT"
  body := exampleBody

def eveUrl : String := "https://remote.example/users/eve"

def evePost : PublicPost :=
  ⟨.publicPost, ⟨eveUrl, exampleBody⟩, exampleBody, 784111777000, 0, 784111777000⟩

theorem plain_key_id_respectful :
    (exampleSubmission "https://remote.example/users/eve#main-key").Respectful := by
  have passes : (exampleSubmission "https://remote.example/users/eve#main-key").posted (loaded []) =
      some evePost := by
    decide +kernel
  exact (respectful_iff_no_slash _ evePost eveUrl passes (by decide +kernel)).mpr
    (by decide +kernel)

/-- With a slash before the fragment, the post goes out under the denylisted actor. -/
theorem slashed_key_id_posts_denylisted_actor :
    TargetIdentity.tryNew .actorUrl eveUrl = .ok ⟨.actorUrl, eveUrl⟩ ∧
      (exampleSubmission "https://remote.example/users/eve/#main-key").posted
        (loaded [⟨.actorUrl, eveUrl⟩]) = some evePost := by
  decide +kernel

end Fetchit.Relay.Inbox
