import Fetchit.Bridge.Inbound

/-! The owner's follow endpoints, and what a repeated request does to the follow graph. The gate
remembers no request: a request that was accepted once is accepted again for as long as its
timestamp lies within the skew window. -/
namespace Fetchit.Bridge
open Lib Lib.Run Fedi Fedi.Json Fedi.HttpSignature Proto.Identity

structure FollowBody where
  targetActorUrl : String
  targetInboxUrl : String
  followActivityId : String
  deriving DecidableEq

structure UnfollowBody where
  targetActorUrl : String
  deriving DecidableEq

structure ConfirmFollowerBody where
  followerActorUrl : String
  followerInboxUrl : String
  followActivityId : Option String
  deriving DecidableEq

/-- The bridge with the decoders of the three bodies. -/
structure FollowConfig where
  inbound : InboundConfig
  followBody : Bytes → Option FollowBody
  unfollowBody : Bytes → Option UnfollowBody
  confirmFollowerBody : Bytes → Option ConfirmFollowerBody

inductive Endpoint where
  | recordFollow
  | unfollow
  | confirmFollower
  deriving DecidableEq

def Endpoint.resource : Endpoint → String
  | .recordFollow => "following"
  | .unfollow => "unfollow"
  | .confirmFollower => "followers/confirm"

structure OwnerRequest where
  handle : String
  headers : HeaderMap
  body : Bytes

/-- What a handler reads besides the request: the clock at the gate and at the write, and the
failures of the store. -/
structure Serving where
  authMs : UInt64
  writeMs : UInt64
  lookupFault : Option String
  writeFault : Bool
  secondWriteFault : Bool

def urlInvalid (parsers : Parsers) (text : String) : Bool :=
  match parsers.parseUrl text with
  | .ok url => url.scheme != "https" || url.hostStr.isNone
  | .error _ => true

def FollowBody.invalid (parsers : Parsers) (req : FollowBody) : Bool :=
  urlInvalid parsers req.targetActorUrl || urlInvalid parsers req.targetInboxUrl

def ConfirmFollowerBody.invalid (parsers : Parsers) (req : ConfirmFollowerBody) : Bool :=
  urlInvalid parsers req.followerActorUrl || urlInvalid parsers req.followerInboxUrl

def withBody {Body : Type} (decoded : Option Body) (tables : Tables)
    (rest : Body → Response × Tables) : Response × Tables :=
  match decoded with
  | none => (⟨400, "malformed body"⟩, tables)
  | some req => rest req

section
variable (config : FollowConfig) (store : Store)

def authRequest (endpoint : Endpoint) (request : OwnerRequest) (serving : Serving) :
    Except Response ActorRecord :=
  authActor.authenticate config.inbound.bridge store request.handle
    ⟨request.headers, "POST", s!"/actors/{request.handle}/{endpoint.resource}", request.body⟩
    serving.authMs serving.lookupFault

def recordFollow (agentId : String) (request : OwnerRequest) (serving : Serving)
    (tables : Tables) : Response × Tables :=
  withBody (config.followBody request.body) tables fun req =>
    if req.invalid config.inbound.bridge.parsers then
      (⟨400, "target URLs must be https"⟩, tables)
    else if serving.writeFault then (⟨500, "store error"⟩, tables)
    else
      let (outcome, following) := tables.following.followRequest agentId req.targetActorUrl
        req.targetInboxUrl req.followActivityId serving.writeMs.toNat
      (match outcome with
        | some .created => ⟨201, "pending"⟩
        | some .alreadyPending => ⟨200, "already pending"⟩
        | some .alreadyAccepted => ⟨200, "already accepted"⟩
        | none => ⟨500, "store error"⟩, { tables with following })

def unfollow (agentId : String) (request : OwnerRequest) (serving : Serving)
    (tables : Tables) : Response × Tables :=
  withBody (config.unfollowBody request.body) tables fun req =>
    if serving.writeFault then (⟨500, "store error"⟩, tables)
    else
      let (removed, following) := tables.following.unfollow agentId req.targetActorUrl
      (if removed.isSome then ⟨200, "removed"⟩ else ⟨404, "not following"⟩,
        { tables with following })

/-- The failure of the second write is ignored. -/
def confirmFollower (agentId : String) (request : OwnerRequest) (serving : Serving)
    (tables : Tables) : Response × Tables :=
  withBody (config.confirmFollowerBody request.body) tables fun req =>
    if req.invalid config.inbound.bridge.parsers then
      (⟨400, "follower URLs must be https"⟩, tables)
    else if serving.writeFault then (⟨500, "store error"⟩, tables)
    else
      let (created, followers) := addFollower tables.followers agentId req.followerActorUrl
        req.followerInboxUrl serving.writeMs.toNat
      let followRequests := if serving.secondWriteFault then tables.followRequests
        else removeFollowRequest tables.followRequests agentId req.followerActorUrl
          req.followActivityId
      (if created then ⟨201, "recorded"⟩ else ⟨200, "already recorded"⟩,
        { tables with followers, followRequests })

def handle (endpoint : Endpoint) :
    String → OwnerRequest → Serving → Tables → Response × Tables :=
  match endpoint with
  | .recordFollow => recordFollow config
  | .unfollow => unfollow config
  | .confirmFollower => confirmFollower config

def serve (endpoint : Endpoint) (request : OwnerRequest) (serving : Serving) (tables : Tables) :
    Response × Tables :=
  match authRequest config store endpoint request serving with
  | .error response => (response, tables)
  | .ok record => handle config endpoint record.agentId request serving tables

inductive FollowEvent where
  | owner (endpoint : Endpoint) (request : OwnerRequest) (serving : Serving)
  | inbound (delivery : Delivery)

def followStep (tables : Tables) : FollowEvent → Tables
  | .owner endpoint request serving => (serve config store endpoint request serving tables).2
  | .inbound delivery => (postInbox config.inbound store tables delivery).2

end

section
variable (config : FollowConfig) (agentId : String) (request : OwnerRequest) (serving : Serving)
  (tables : Tables)

def FollowTaken (req : FollowBody) : Prop :=
  tables.following.table.holds (agentId, req.targetActorUrl) = true ∨
    tables.following.holdsId req.followActivityId = true

def FollowerConfirmed (req : ConfirmFollowerBody) : Prop :=
  tables.followers.holds (agentId, req.followerActorUrl) = true ∧
    (serving.secondWriteFault = false → ∀ row ∈ tables.followRequests.rows,
      row.key = (agentId, req.followerActorUrl) →
        req.followActivityId.all (row.followActivityId = ·) = false)

def Settled : Endpoint → Prop
  | .recordFollow => ∀ req ∈ config.followBody request.body,
      req.invalid config.inbound.bridge.parsers = false → serving.writeFault = false →
        FollowTaken agentId tables req
  | .unfollow => ∀ req ∈ config.unfollowBody request.body, serving.writeFault = false →
      tables.following.table.holds (agentId, req.targetActorUrl) = false
  | .confirmFollower => ∀ req ∈ config.confirmFollowerBody request.body,
      req.invalid config.inbound.bridge.parsers = false → serving.writeFault = false →
        FollowerConfirmed agentId serving tables req

end

variable {config : FollowConfig} {store : Store} {agentId : String} {request : OwnerRequest}
  {serving : Serving} {tables : Tables}

theorem refusal_eq_self {response : Response} {rest : Response × Tables} :
    (if refused then (response, tables) else rest).2 = tables ↔
      (refused = false → rest.2 = tables) := by
  cases refused <;> simp

theorem withBody_eq_self {decoded : Option Body} {rest : Body → Response × Tables} :
    (withBody decoded tables rest).2 = tables ↔ ∀ req ∈ decoded, (rest req).2 = tables := by
  cases decoded <;> simp [withBody]

theorem recordFollow_eq_self :
    (recordFollow config agentId request serving tables).2 = tables ↔
      Settled config agentId request serving tables .recordFollow := by
  unfold recordFollow Settled FollowTaken
  rw [withBody_eq_self]
  refine forall₂_congr fun req _ => ?_
  rw [refusal_eq_self, refusal_eq_self]
  rw [Tables.following_eq_self, Following.followRequest_eq_self]

theorem unfollow_eq_self :
    (unfollow config agentId request serving tables).2 = tables ↔
      Settled config agentId request serving tables .unfollow := by
  unfold unfollow Settled
  rw [withBody_eq_self]
  refine forall₂_congr fun req _ => ?_
  rw [refusal_eq_self]
  rw [Tables.following_eq_self, Following.unfollow_eq_self]

theorem consumed_eq_self {fault : Bool} :
    (if fault then requests
      else removeFollowRequest requests agentId follower followActivityId) = requests ↔
      (fault = false → ∀ row ∈ requests.rows, row.key = (agentId, follower) →
        followActivityId.all (row.followActivityId = ·) = false) := by
  cases fault with
  | true => simp
  | false =>
    rw [if_neg Bool.false_ne_true]
    unfold removeFollowRequest
    rw [Table.deleteWhere_eq_self]
    simp

theorem confirmFollower_eq_self :
    (confirmFollower config agentId request serving tables).2 = tables ↔
      Settled config agentId request serving tables .confirmFollower := by
  unfold confirmFollower Settled FollowerConfirmed
  rw [withBody_eq_self]
  refine forall₂_congr fun req _ => ?_
  rw [refusal_eq_self, refusal_eq_self]
  rw [Tables.followers_eq_self, consumed_eq_self]
  unfold addFollower
  rw [Table.insertOrIgnore_eq_self]
  rfl

theorem handle_eq_self (endpoint : Endpoint) :
    (handle config endpoint agentId request serving tables).2 = tables ↔
      Settled config agentId request serving tables endpoint := by
  cases endpoint with
  | recordFollow => exact recordFollow_eq_self
  | unfollow => exact unfollow_eq_self
  | confirmFollower => exact confirmFollower_eq_self

theorem serve_of_passes (passes : authRequest config store endpoint request serving = .ok record) :
    serve config store endpoint request serving tables =
      handle config endpoint record.agentId request serving tables := by
  unfold serve
  rw [passes]

theorem settled_handle (endpoint : Endpoint) (again : Serving) (works : serving.writeFault = false)
    (consumes : serving.secondWriteFault = false) :
    Settled config agentId request again
      (handle config endpoint agentId request serving tables).2 endpoint := by
  cases endpoint with
  | recordFollow =>
    intro req decoded valid _
    dsimp only [handle]
    unfold recordFollow
    rw [Option.mem_def.mp decoded]
    simp only [withBody, valid, works]
    exact Following.followRequest_taken
  | unfollow =>
    intro req decoded _
    dsimp only [handle]
    unfold unfollow
    rw [Option.mem_def.mp decoded]
    simp only [works]
    exact Following.unfollow_gone
  | confirmFollower =>
    intro req decoded valid _
    dsimp only [handle]
    unfold confirmFollower
    rw [Option.mem_def.mp decoded]
    simp only [withBody, valid, works, consumes]
    refine ⟨Table.holds_insertOrIgnore.mpr (.inr rfl), ?_⟩
    intro _ row mem same
    have kept := (List.mem_filter.mp mem).2
    simpa [same] using kept

/-- After any run, a request that the gate lets through once more leaves the tables as they are
exactly when they already show what it asks for. -/
theorem repeated_request_harmless_iff (config : FollowConfig) (store : Store)
    (before after : List FollowEvent) (endpoint : Endpoint) (request : OwnerRequest)
    (first again : Serving) (record : ActorRecord)
    (passes : authRequest config store endpoint request again = .ok record) :
    let tables := run (followStep config store) .empty
      (before ++ .owner endpoint request first :: after)
    followStep config store tables (.owner endpoint request again) = tables ↔
      Settled config record.agentId request again tables endpoint := by
  dsimp only [followStep]
  rw [serve_of_passes passes]
  exact handle_eq_self endpoint

def followUrl (text : String) : Url := ⟨text, "https", some text, none, "/"⟩

def followOwner : Actor where
  id := followUrl "u"
  preferredUsername := "h"
  inbox := followUrl "i"
  outbox := followUrl "o"
  rsaPublicKeyPem := ""
  mlDsaAttestation := ⟨[1], [1]⟩
  mlDsaAttestationV2 := none
  iconUrl := none
  iconMediaType := none

def followAgent : String := hexId (deriveAgentId (idealCrypto []) [1])

def followRecord : ActorRecord := ⟨followAgent, "h", "u", followOwner.toJsonLd, 0⟩

def followStore : Store := ⟨[followRecord], List.pairwise_singleton _ _⟩

def followConfig : FollowConfig where
  inbound := {
    bridge := ⟨idealCrypto [([1], agentSignInput
        (canonicalRequest (idealCrypto []) "POST" "/actors/h/following"
        784111777000 [1]))],
      ⟨fun text => .ok (followUrl text), id, fun _ => ""⟩, "b", []⟩
    rsa := exampleRsa
    parseJson := fun _ => some (.object [("type", .string "Reject"), ("actor", .string "t"),
      ("object", .string "f")])
    htmlToText := id
    lowercase := id }
  followBody := fun _ => some ⟨"t", "t", "f"⟩
  unfollowBody := fun _ => none
  confirmFollowerBody := fun _ => none

def followOnce : OwnerRequest :=
  ⟨"h", signedHeaders (deriveAgentId (idealCrypto []) [1])
    "784111777000" [1], [1]⟩

def servedAt (ms : UInt64) : Serving := ⟨ms, ms, none, false, false⟩

theorem followOnce_passes : ∀ ms ∈ [(784111777000 : UInt64), 784111779000],
    authRequest followConfig followStore .recordFollow followOnce (servedAt ms) =
      .ok followRecord := by
  have passes : [(784111777000 : UInt64), 784111779000].all (fun ms =>
      (authRequest followConfig followStore .recordFollow followOnce (servedAt ms)).isOk) = true := by
    decide +kernel
  exact fun ms mem => authenticate_of_isOk rfl (List.all_eq_true.mp passes ms mem)

def rejection : Delivery where
  handle := "h"
  headers := [("date", some "Sun, 06 Nov 1994 08:49:38 GMT"), ("host", some "b"),
    ("content-digest", some (computeContentDigest exampleRsa [2])),
    ("signature-input", some "sig1=();keyid=\"t#k\""), ("signature", some "sig1=:aw==:")]
  body := [2]
  nowMs := 784111778000
  fetchRemoteActor := fun url => .ok ⟨url, url, some "k"⟩
  denylist := none
  lookupFault := none
  writeFault := false
  secondWriteFault := false

theorem prompt_repetition_harmless :
    let tables := run (followStep followConfig followStore) .empty
      ([] ++ [.owner .recordFollow followOnce (servedAt 784111777000)])
    followStep followConfig followStore tables
      (.owner .recordFollow followOnce (servedAt 784111779000)) = tables := by
  refine (repeated_request_harmless_iff followConfig followStore [] [] .recordFollow followOnce
    (servedAt 784111777000) (servedAt 784111779000) followRecord
    (followOnce_passes _ (by simp))).mpr ?_
  rw [List.nil_append, run_cons, run_nil]
  dsimp only [followStep]
  rw [serve_of_passes (followOnce_passes _ (by simp))]
  exact settled_handle .recordFollow _ rfl rfl

/-- The follow is rejected, and the repeated request records it again. -/
theorem repeated_follow_outlives_rejection :
    let tables := run (followStep followConfig followStore) .empty
      ([] ++ [.owner .recordFollow followOnce (servedAt 784111777000), .inbound rejection])
    authRequest followConfig followStore .recordFollow followOnce (servedAt 784111777000) =
        .ok followRecord ∧
      authRequest followConfig followStore .recordFollow followOnce (servedAt 784111779000) =
        .ok followRecord ∧
      tables.following.table.rows = [] ∧
      (followStep followConfig followStore tables
        (.owner .recordFollow followOnce (servedAt 784111779000))).following.table.rows =
          [⟨followAgent, "t", "t", .pending, "f", 784111779000⟩] := by
  refine ⟨followOnce_passes _ (by simp), followOnce_passes _ (by simp), ?_⟩
  decide +kernel

end Fetchit.Bridge
