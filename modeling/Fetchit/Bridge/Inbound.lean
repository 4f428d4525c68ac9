import Fetchit.Fedi.HttpDate
import Fetchit.Fedi.HttpSignature
import Fetchit.Fedi.Lookup
import Fetchit.Bridge.Routes
import Fetchit.Bridge.Tables
import Fetchit.Trust.Types

/-! Inbound delivery: a remote server posts an activity to the inbox of a hosted actor. The
signature shows who delivered it, and only what the signer itself authored is handled. -/
namespace Fetchit.Bridge
open Lib Lib.Outcome Fedi Fedi.Json Fedi.HttpDate Fedi.HttpSignature

/-- The bridge, and the parts of the handler that come from outside: the RSA operations, the JSON
decoder, the reduction of a note to plain text, and the lower case of a text. -/
structure InboundConfig where
  bridge : BridgeConfig
  rsa : Rsa
  parseJson : Bytes → Option Value
  htmlToText : String → String
  lowercase : String → String

/-- One request, with what the handler reads around it. -/
structure Delivery where
  handle : String
  headers : HeaderMap
  body : Bytes
  nowMs : Int
  fetchRemoteActor : Url → Except FetchActorError RemoteActor
  /-- The fetch of the claimed actor comes later and may be answered differently. -/
  fetchClaimedActor : Url → Except FetchActorError RemoteActor := fetchRemoteActor
  denylist : Option (String → Bool)
  lookupFault : Option String
  writeFault : Bool
  secondWriteFault : Bool

def maxInboxBody : Nat := 128 * 1024

def maxDateSkewSecs : Int := 12 * 60 * 60

def header (headers : HeaderMap) (name : String) : Option String :=
  (headers.lookup name).join

def trimQuotes (text : List Char) : List Char :=
  ((text.dropWhile (· == '"')).reverse.dropWhile (· == '"')).reverse

def parseQuotedParams (value : List Char) : List (String × String) :=
  (quoteAwareSplit (fun c => c == ',' || c == ';') false value).filterMap fun chunk => do
    let (name, text) ← Scan.cutChars ['='] (Scan.trimChars chunk)
    let key := Scan.trimChars name
    if key.isEmpty then none
    else some (String.ofList key, String.ofList (trimQuotes (Scan.trimChars text)))

def param (params : List (String × String)) (name : String) : String :=
  (params.lookup name).getD ""

def signatureInputParams (value : List Char) : List (String × String) :=
  let value := Scan.trimChars value
  let rest := ((Scan.cutChars ['='] value).map Prod.snd).getD value
  let tail := do
    let (_, inner) ← Scan.cutChars ['('] rest
    let (_, after) ← Scan.cutChars [')'] inner
    some after
  parseQuotedParams (tail.getD rest)

def presentedKeyId (headers : HeaderMap) : String :=
  match header headers "signature-input" with
  | some sigInput => param (signatureInputParams sigInput.toList) "keyid"
  | none =>
    match header headers "signature" with
    | some sig => param (parseQuotedParams sig.toList) "keyId"
    | none => ""

def keyIdOwner (keyId : String) : String :=
  match Scan.splitOnce keyId "#" with
  | some (base, _) => base
  | none => keyId

def checkDateSkew (date : String) (nowMs : Int) : Bool :=
  match parseImfFixdate date with
  | none => false
  | some moment => moment / second < 2 ^ 63 &&
      (nowMs.tdiv 1000 - (moment / second : Nat)).natAbs ≤ maxDateSkewSecs.toNat

def verifyInboundSignature (config : InboundConfig) (delivery : Delivery) (pubkeyPem : String) :
    Except String Unit := do
  let date ← okOr (header delivery.headers "date") "missing date"
  require (checkDateSkew date delivery.nowMs) "stale date"
  let host ← okOr (header delivery.headers "host") "missing host"
  let hostCandidates := [config.bridge.domain, host]
  let requestPath := "/actors/" ++ delivery.handle ++ "/inbox"
  let pubkey ← okOr (parseRsaPublicKeyPem config.rsa pubkeyPem) "bad sender key"
  match header delivery.headers "signature-input" with
  | some sigInput => do
      let signature ← okOr (header delivery.headers "signature") "missing signature"
      let contentDigest ← okOr (header delivery.headers "content-digest") "missing content-digest"
      require (computeContentDigest config.rsa delivery.body == contentDigest) "digest mismatch"
      let scheme := (header delivery.headers "x-forwarded-proto").getD "https"
      require (hostCandidates.eraseDups.any fun candidate =>
        (verifySignatureRfc9421 config.rsa pubkey (scheme ++ "://" ++ candidate ++ requestPath)
          candidate date contentDigest sigInput signature delivery.body).toOption.isSome)
        "signature invalid"
  | none => do
      let signature ← okOr (header delivery.headers "signature") "missing signature"
      let digest ← okOr (header delivery.headers "digest") "missing digest"
      require (computeDigestCavage config.rsa delivery.body == digest) "digest mismatch"
      let parsed ← (parseCavageSignatureHeader signature).mapError fun _ => "malformed signature"
      require (parsed.algorithm.isEmpty || parsed.algorithm == "rsa-sha256")
        "unsupported algorithm"
      (verifySignatureCavageDeclared config.rsa config.lowercase pubkey "post" requestPath
        hostCandidates (header delivery.headers) signature).mapError fun error =>
          match error with
          | .missingSignedHeader _ => "signed header missing from request"
          | _ => "signature invalid"

inductive Provenance where
  | selfDelivered
  | forwarded
  | needsActorResolution
  deriving DecidableEq

def classifyProvenance (signerId claimedActor : Url) : Provenance :=
  if signerId.asStr = claimedActor.asStr then .selfDelivered
  else if signerId.hostStr.isSome && signerId.hostStr == claimedActor.hostStr then
    .needsActorResolution
  else .forwarded

def isForwarded (delivery : Delivery) (signer : RemoteActor) (claimedActor : Url) : Bool :=
  match classifyProvenance signer.id claimedActor with
  | .selfDelivered => false
  | .forwarded => true
  | .needsActorResolution =>
    match delivery.fetchClaimedActor claimedActor with
    | .ok resolved => resolved.id.asStr != signer.id.asStr
    | .error _ => true

/-- A text that cannot be made canonical counts as blocked. -/
def isBlockedActor (denylist : Option (String → Bool)) (actorUrl : String) : Bool :=
  match denylist with
  | none => false
  | some blocked =>
    match Trust.canonicalizeUrlValue actorUrl with
    | .ok canonical => blocked canonical
    | .error _ => true

def goneDeleteShortcut (error : FetchActorError) (activity : Value) : Bool :=
  match error with
  | .http status => (status == 404 || status == 410) &&
      (activity.get "type").bind Value.asStr == some "Delete"
  | _ => false

/-- An activity whose signer is its author, with the actor it was delivered to. -/
structure Verified where
  record : ActorRecord
  signer : RemoteActor
  activity : Value

def verifyDelivery (config : InboundConfig) (store : Store) (delivery : Delivery) :
    Except Response Verified := do
  require (delivery.body.length ≤ maxInboxBody) ⟨413, "activity too large"⟩
  let record ← Gate.findRecord ⟨⟨404, "no such actor"⟩, ⟨500, "store error"⟩⟩ store
    delivery.handle delivery.lookupFault
  let activity ← okOr (config.parseJson delivery.body) ⟨400, "malformed activity"⟩
  let claimed ← okOr ((activity.get "actor").bind Value.asStr) ⟨400, "activity has no actor"⟩
  let claimedUrl ← (config.bridge.parsers.parseUrl claimed).mapError fun _ =>
    ⟨400, "actor is not a url"⟩
  let keyId := presentedKeyId delivery.headers
  let signerUrl ← (config.bridge.parsers.parseUrl (keyIdOwner keyId)).mapError fun _ =>
    ⟨401, if keyId.isEmpty then "missing keyId" else "keyId is not a url"⟩
  let signer ← (delivery.fetchRemoteActor signerUrl).mapError fun error =>
    if goneDeleteShortcut error activity then ⟨202, "ignored"⟩
    else ⟨502, "could not fetch sender"⟩
  let pubkeyPem ← okOr signer.rsaPublicKeyPem ⟨401, "sender has no key"⟩
  (verifyInboundSignature config delivery pubkeyPem).mapError fun reason => ⟨401, reason⟩
  require (!isBlockedActor delivery.denylist signer.id.asStr) ⟨403, "denylisted"⟩
  require (!isForwarded delivery signer claimedUrl) ⟨202, "ignored (forwarded)"⟩
  .ok ⟨record, signer, activity⟩

/-- The gates as one conjunction. -/
structure Admits (config : InboundConfig) (store : Store) (delivery : Delivery)
    (verified : Verified) (claimed signer : Url) (pubkeyPem : String) : Prop where
  small : delivery.body.length ≤ maxInboxBody
  found : store.actorByHandle delivery.handle = some verified.record
  works : delivery.lookupFault = none
  decoded : config.parseJson delivery.body = some verified.activity
  names : ∃ text, (verified.activity.get "actor").bind Value.asStr = some text ∧
    config.bridge.parsers.parseUrl text = .ok claimed
  keyed : config.bridge.parsers.parseUrl (keyIdOwner (presentedKeyId delivery.headers)) =
    .ok signer
  fetched : delivery.fetchRemoteActor signer = .ok verified.signer
  carries : verified.signer.rsaPublicKeyPem = some pubkeyPem
  signed : verifyInboundSignature config delivery pubkeyPem = .ok ()
  welcome : isBlockedActor delivery.denylist verified.signer.id.asStr = false
  authored : isForwarded delivery verified.signer claimed = false

theorem verifyDelivery_eq_ok :
    verifyDelivery config store delivery = .ok verified ↔
      ∃ claimed signer pubkeyPem,
        Admits config store delivery verified claimed signer pubkeyPem := by
  unfold verifyDelivery
  simp only [bind_eq_ok, mapError_eq_ok, okOr_eq_ok, require_eq_ok, decide_eq_true_eq,
    Bool.not_eq_true', Except.ok.injEq]
  constructor
  · rintro ⟨_, small, record, found, activity, decoded, text, names, claimed, parsed, signer, keyed,
      sender, fetched, pem, carries, _, signed, _, welcome, _, authored, rfl⟩
    have works : delivery.lookupFault = none := by
      unfold Gate.findRecord at found
      split at found
      · cases found
      · assumption
    exact ⟨claimed, signer, pem, small, findRecord_eq_ok found, works, decoded,
      ⟨text, names, parsed⟩, keyed, fetched, carries, signed, welcome, authored⟩
  · rintro ⟨claimed, signer, pem, admits⟩
    obtain ⟨text, names, parsed⟩ := admits.names
    have found : Gate.findRecord ⟨⟨404, "no such actor"⟩, ⟨500, "store error"⟩⟩ store
        delivery.handle delivery.lookupFault = .ok verified.record := by
      unfold Gate.findRecord
      rw [admits.works, admits.found]
      rfl
    exact ⟨(), admits.small, verified.record, found, verified.activity, admits.decoded, text, names,
      claimed, parsed, signer, admits.keyed, verified.signer, admits.fetched, pem, admits.carries,
      (), admits.signed, (), admits.welcome, (), admits.authored, rfl⟩

def publicAliases : List String :=
  ["https://www.w3.org/ns/activitystreams#Public", "as:Public", "Public"]

def audienceUris : Option Value → List String
  | some (.string text) => [text]
  | some (.array items) => items.filterMap Value.asStr
  | _ => []

def isDirectTo (note : Value) (ourActorUrl : String) : Bool :=
  let audience := audienceUris (note.get "to") ++ audienceUris (note.get "cc")
  !(audience.any fun uri => publicAliases.contains uri) &&
    !(audience.any fun uri => "/followers".toList.isSuffixOf uri.toList) &&
    audience.contains ourActorUrl

def composeMessage (config : InboundConfig) (delivery : Delivery) (verified : Verified) :
    Option InboxMessage := do
  let note ← verified.activity.get "object"
  guard ((note.get "type").bind Value.asStr = some "Note")
  guard (isDirectTo note verified.record.actorUrl)
  let text := config.htmlToText (((note.get "content").bind Value.asStr).getD "")
  guard (!text.isEmpty)
  let noteId := ((note.get "id").bind Value.asStr).getD ""
  guard (!noteId.isEmpty)
  some ⟨verified.record.agentId, verified.signer.id.asStr, noteId, text,
    ((note.get "published").bind Value.asStr).getD "", delivery.nowMs⟩

theorem composeMessage_sender (h : composeMessage config delivery verified = some message) :
    message.senderActorUrl = verified.signer.id.asStr := by
  unfold composeMessage at h
  simp only [Option.bind_eq_bind, Option.bind_eq_some_iff, Option.some.injEq] at h
  obtain ⟨_, _, _, _, _, _, _, _, _, _, rfl⟩ := h
  rfl

def objectId (activity : Value) : Option String := do
  let object ← activity.get "object"
  ((object.get "id").bind Value.asStr).orElse fun _ => object.asStr

def accepted : Response := ⟨202, "accepted"⟩

def handleCreate (config : InboundConfig) (delivery : Delivery) (verified : Verified)
    (tables : Tables) : Response × Tables :=
  match composeMessage config delivery verified with
  | none => (accepted, tables)
  | some message =>
    if delivery.writeFault then (⟨500, "store error"⟩, tables)
    else (accepted,
      { tables with inboxMessages := (tables.inboxMessages.insertOrIgnore message).2 })

def handleAccept (delivery : Delivery) (verified : Verified) (tables : Tables) : Tables :=
  match objectId verified.activity with
  | none => tables
  | some followId =>
    if delivery.writeFault then tables
    else { tables with
      following := tables.following.followAccepted followId verified.signer.id.asStr
        verified.record.agentId }

def handleReject (delivery : Delivery) (verified : Verified) (tables : Tables) : Tables :=
  match objectId verified.activity with
  | none => tables
  | some followId =>
    if delivery.writeFault then tables
    else { tables with
      following := tables.following.followRejected followId verified.signer.id.asStr }

def handleFollow (delivery : Delivery) (verified : Verified) (tables : Tables) : Tables :=
  if objectId verified.activity = some verified.record.actorUrl then
    match (verified.activity.get "id").bind Value.asStr with
    | none => tables
    | some followId =>
      if delivery.writeFault then tables
      else { tables with
        followRequests := addFollowRequest tables.followRequests verified.record.agentId
          verified.signer.id.asStr verified.signer.inbox.asStr followId delivery.nowMs.toNat
          delivery.secondWriteFault }
  else tables

/-- Only a follow of our actor by the signer is undone. -/
def handleUndo (delivery : Delivery) (verified : Verified) (tables : Tables) : Tables :=
  match verified.activity.get "object" with
  | none => tables
  | some object =>
    let text name := (object.get name).bind Value.asStr
    if text "type" = some "Follow" ∧ text "actor" = some verified.signer.id.asStr ∧
        text "object" = some verified.record.actorUrl then
      { tables with
        followRequests := if delivery.writeFault then tables.followRequests
          else removeFollowRequest tables.followRequests verified.record.agentId
            verified.signer.id.asStr none
        followers := if delivery.secondWriteFault then tables.followers
          else removeFollower tables.followers verified.record.agentId
            verified.signer.id.asStr }
    else tables

def askedFollow (verified : Verified) : Option String :=
  if objectId verified.activity = some verified.record.actorUrl then
    (verified.activity.get "id").bind Value.asStr
  else none

theorem handleFollow_eq (delivery : Delivery) (verified : Verified) (tables : Tables) :
    handleFollow delivery verified tables =
      match askedFollow verified with
      | none => tables
      | some followId =>
        if delivery.writeFault then tables
        else { tables with
          followRequests := addFollowRequest tables.followRequests verified.record.agentId
            verified.signer.id.asStr verified.signer.inbox.asStr followId delivery.nowMs.toNat
            delivery.secondWriteFault } := by
  unfold handleFollow askedFollow
  split <;> rfl

def retracts (verified : Verified) : Bool :=
  match verified.activity.get "object" with
  | none => false
  | some object =>
    (object.get "type").bind Value.asStr = some "Follow" ∧
      (object.get "actor").bind Value.asStr = some verified.signer.id.asStr ∧
      (object.get "object").bind Value.asStr = some verified.record.actorUrl

theorem handleUndo_eq (delivery : Delivery) (verified : Verified) (tables : Tables) :
    handleUndo delivery verified tables =
      if retracts verified then
        { tables with
          followRequests := if delivery.writeFault then tables.followRequests
            else removeFollowRequest tables.followRequests verified.record.agentId
              verified.signer.id.asStr none
          followers := if delivery.secondWriteFault then tables.followers
            else removeFollower tables.followers verified.record.agentId
              verified.signer.id.asStr }
      else tables := by
  unfold handleUndo retracts
  split
  · rfl
  · simp only [decide_eq_true_eq]

section
variable (delivery : Delivery) (verified : Verified) (tables : Tables)

@[simp] theorem handleAccept_inboxMessages :
    (handleAccept delivery verified tables).inboxMessages = tables.inboxMessages := by
  unfold handleAccept
  split
  · rfl
  · split <;> rfl

@[simp] theorem handleReject_inboxMessages :
    (handleReject delivery verified tables).inboxMessages = tables.inboxMessages := by
  unfold handleReject
  split
  · rfl
  · split <;> rfl

@[simp] theorem handleFollow_inboxMessages :
    (handleFollow delivery verified tables).inboxMessages = tables.inboxMessages := by
  unfold handleFollow
  split
  · split
    · rfl
    · split <;> rfl
  · rfl

@[simp] theorem handleUndo_inboxMessages :
    (handleUndo delivery verified tables).inboxMessages = tables.inboxMessages := by
  unfold handleUndo
  split
  · rfl
  · dsimp only
    split <;> rfl

end

def dispatch (config : InboundConfig) (delivery : Delivery) (verified : Verified)
    (tables : Tables) : Response × Tables :=
  match (verified.activity.get "type").bind Value.asStr with
  | some "Create" => handleCreate config delivery verified tables
  | some "Accept" => (accepted, handleAccept delivery verified tables)
  | some "Reject" => (accepted, handleReject delivery verified tables)
  | some "Follow" => (accepted, handleFollow delivery verified tables)
  | some "Undo" => (accepted, handleUndo delivery verified tables)
  | _ => (⟨202, "ignored"⟩, tables)

def postInbox (config : InboundConfig) (store : Store) (tables : Tables) (delivery : Delivery) :
    Response × Tables :=
  match verifyDelivery config store delivery with
  | .error response => (response, tables)
  | .ok verified => dispatch config delivery verified tables

theorem postInbox_cases (config : InboundConfig) (store : Store) (tables : Tables)
    (delivery : Delivery) {motive : Tables → Prop} (same : motive tables)
    (create : ∀ verified message, verifyDelivery config store delivery = .ok verified →
      (verified.activity.get "type").bind Value.asStr = some "Create" →
      composeMessage config delivery verified = some message → delivery.writeFault = false →
      motive { tables with inboxMessages := (tables.inboxMessages.insertOrIgnore message).2 })
    (accept : ∀ verified followId, verifyDelivery config store delivery = .ok verified →
      (verified.activity.get "type").bind Value.asStr = some "Accept" →
      objectId verified.activity = some followId → delivery.writeFault = false →
      motive { tables with
        following := tables.following.followAccepted followId verified.signer.id.asStr
          verified.record.agentId })
    (reject : ∀ verified followId, verifyDelivery config store delivery = .ok verified →
      (verified.activity.get "type").bind Value.asStr = some "Reject" →
      objectId verified.activity = some followId → delivery.writeFault = false →
      motive { tables with
        following := tables.following.followRejected followId verified.signer.id.asStr })
    (follow : ∀ verified followId, verifyDelivery config store delivery = .ok verified →
      (verified.activity.get "type").bind Value.asStr = some "Follow" →
      askedFollow verified = some followId → delivery.writeFault = false →
      motive { tables with
        followRequests := addFollowRequest tables.followRequests verified.record.agentId
          verified.signer.id.asStr verified.signer.inbox.asStr followId delivery.nowMs.toNat
          delivery.secondWriteFault })
    (undo : ∀ verified, verifyDelivery config store delivery = .ok verified →
      (verified.activity.get "type").bind Value.asStr = some "Undo" → retracts verified = true →
      motive { tables with
        followRequests := if delivery.writeFault then tables.followRequests
          else removeFollowRequest tables.followRequests verified.record.agentId
            verified.signer.id.asStr none
        followers := if delivery.secondWriteFault then tables.followers
          else removeFollower tables.followers verified.record.agentId
            verified.signer.id.asStr }) :
    motive (postInbox config store tables delivery).2 := by
  unfold postInbox
  split
  · exact same
  · rename_i verified verifies
    unfold dispatch
    split
    · rename_i kind
      unfold handleCreate
      split
      · exact same
      · rename_i message offers
        split
        · exact same
        · rename_i works
          exact create verified message verifies kind offers (Bool.not_eq_true _ ▸ works)
    · rename_i kind
      unfold handleAccept
      split
      · exact same
      · rename_i followId named
        split
        · exact same
        · rename_i works
          exact accept verified followId verifies kind named (Bool.not_eq_true _ ▸ works)
    · rename_i kind
      unfold handleReject
      split
      · exact same
      · rename_i followId named
        split
        · exact same
        · rename_i works
          exact reject verified followId verifies kind named (Bool.not_eq_true _ ▸ works)
    · rename_i kind
      rw [handleFollow_eq]
      split
      · exact same
      · rename_i followId asked
        split
        · exact same
        · rename_i works
          exact follow verified followId verifies kind asked (Bool.not_eq_true _ ▸ works)
    · rename_i kind
      rw [handleUndo_eq]
      split
      · rename_i retracted
        exact undo verified verifies kind retracted
      · exact same
    · exact same

end Fetchit.Bridge
