import Fetchit.Bridge.Inbound

/-! Who stands behind a write of the inbox. The servers that are asked for actor documents may
answer every fetch as they like; what is written still names an actor whose own address serves the
key that verified the request. -/
namespace Fetchit.Bridge
open Lib Fedi Fedi.Json

/-- The delivery while the servers answer its fetches in turn: two at most for the signer, then
two at most for the claimed actor. -/
def Delivery.over (delivery : Delivery) (parsers : Parsers) (web : Nat → Fetch) : Delivery :=
  { delivery with
    fetchRemoteActor := Fedi.fetchRemoteActor parsers (web 0) (web 1)
    fetchClaimedActor := Fedi.fetchRemoteActor parsers (web 2) (web 3) }

section
variable (config : InboundConfig) (web : Nat → Fetch) (delivery : Delivery) (sender : String)
  (activity : Value)

/-- The sender's own address served a document with its id and the key that verified the
request. -/
def KeyVouched : Prop :=
  ∃ n actor pubkeyPem, ServedBySelf config.bridge.parsers (web n) actor ∧
    actor.id.asStr = sender ∧ actor.rsaPublicKeyPem = some pubkeyPem ∧
    verifyInboundSignature config delivery pubkeyPem = .ok ()

/-- The activity names the sender as its actor, directly or by an address that resolves to the
sender. -/
def ClaimResolves : Prop :=
  ∃ text claimed, (activity.get "actor").bind Value.asStr = some text ∧
    config.bridge.parsers.parseUrl text = .ok claimed ∧
    (claimed.asStr = sender ∨ ∃ actor,
      fetchRemoteActor config.bridge.parsers (web 2) (web 3) claimed = .ok actor ∧
        actor.id.asStr = sender)

end

/-- Every row that was added, changed or removed names the sender, apart from requests of the
recipient that a full queue evicts. -/
structure NamesSender (sender agentId : String) (before after : Tables) : Prop where
  messages : ∀ row ∈ after.inboxMessages.rows, row ∈ before.inboxMessages.rows ∨
    row.senderActorUrl = sender
  messagesKept : ∀ row ∈ before.inboxMessages.rows, row ∈ after.inboxMessages.rows
  following : ∀ row : FollowingRecord, row.targetActorUrl ≠ sender →
    (row ∈ after.following.table.rows ↔ row ∈ before.following.table.rows)
  followers : ∀ row : FollowerRecord, row.followerActorUrl ≠ sender →
    (row ∈ after.followers.rows ↔ row ∈ before.followers.rows)
  followRequests : ∀ row ∈ after.followRequests.rows, row ∈ before.followRequests.rows ∨
    row.followerActorUrl = sender
  followRequestsKept : ∀ row ∈ before.followRequests.rows, row ∈ after.followRequests.rows ∨
    row.followerActorUrl = sender ∨ row.actorId = agentId ∧ maxQueuedFollowRequests ≤
      (after.followRequests.rows.filter fun row => row.actorId = agentId).length

namespace NamesSender

variable {sender agentId : String} {tables : Tables}

theorem refl (sender agentId : String) (tables : Tables) :
    NamesSender sender agentId tables tables where
  messages := fun _ mem => .inl mem
  messagesKept := fun _ mem => mem
  following := fun _ _ => Iff.rfl
  followers := fun _ _ => Iff.rfl
  followRequests := fun _ mem => .inl mem
  followRequestsKept := fun _ mem => .inl mem

theorem message {message : InboxMessage} (from' : message.senderActorUrl = sender) :
    NamesSender sender agentId tables
      { tables with inboxMessages := (tables.inboxMessages.insertOrIgnore message).2 } :=
  { refl sender agentId tables with
    messages := by
      intro row mem
      rcases Table.mem_insertOrIgnore.mp mem with old | ⟨_, rfl⟩
      · exact .inl old
      · exact .inr from'
    messagesKept := fun row mem => Table.mem_insertOrIgnore.mpr (.inl mem) }

variable {followId : String}

theorem followAccepted :
    NamesSender sender agentId tables
      { tables with following := tables.following.followAccepted followId sender agentId } :=
  { refl sender agentId tables with
    following := by
      intro row other
      constructor
      · intro mem
        obtain ⟨old, there, rfl⟩ := List.mem_map.mp mem
        split at other
        · rename_i match'
          exact absurd match'.2.2.1 other
        · rename_i unmatched
          rw [if_neg unmatched]
          exact there
      · intro mem
        refine List.mem_map.mpr ⟨row, mem, if_neg ?_⟩
        intro match'
        exact other match'.2.2.1 }

theorem followRejected :
    NamesSender sender agentId tables
      { tables with following := tables.following.followRejected followId sender } :=
  { refl sender agentId tables with
    following := by
      intro row other
      refine List.mem_filter.trans (and_iff_left ?_)
      simp [other] }

theorem addFollowRequest :
    NamesSender sender agentId tables
      { tables with
        followRequests := addFollowRequest tables.followRequests agentId sender inbox followId
          nowMs fault } := by
  generalize request : (⟨agentId, sender, inbox, followId, storedMs nowMs⟩ :
    FollowRequestRecord) = row
  have named : row.followerActorUrl = sender := by rw [← request]
  have queued : Bridge.addFollowRequest tables.followRequests agentId sender inbox followId nowMs
      fault = if fault then tables.followRequests.upsert row
        else evictFollowRequests (tables.followRequests.upsert row) agentId := by
    rw [← request]
    rfl
  have added : ∀ other ∈ (tables.followRequests.upsert row).rows,
      other ∈ tables.followRequests.rows ∨ other.followerActorUrl = sender := by
    intro other mem
    rcases Table.mem_upsert.mp mem with rfl | ⟨old, _⟩
    · exact .inr named
    · exact .inl old
  have kept : ∀ other ∈ tables.followRequests.rows, other.followerActorUrl = sender ∨
      other ∈ (tables.followRequests.upsert row).rows := by
    intro other mem
    by_cases same : other.key = row.key
    · have follower : other.followerActorUrl = row.followerActorUrl := congrArg Prod.snd same
      exact .inl (follower.trans named)
    · exact .inr (Table.mem_upsert.mpr (.inr ⟨mem, same⟩))
  rw [queued]
  cases fault with
  | true =>
    exact { refl sender agentId tables with
      followRequests := added
      followRequestsKept := fun other mem => (kept other mem).elim (fun h => .inr (.inl h))
        .inl }
  | false =>
    refine { refl sender agentId tables with followRequests := ?_, followRequestsKept := ?_ }
    · intro other mem
      exact added other (List.mem_of_mem_filter mem)
    · intro other mem
      by_cases there : other ∈ (evictFollowRequests (tables.followRequests.upsert row) agentId).rows
      · exact .inl there
      · rcases kept other mem with follower | present
        · exact .inr (.inl follower)
        · exact .inr (.inr (full_of_evicted present there))

theorem undo {fault fault' : Bool} :
    NamesSender sender agentId tables
      { tables with
        followRequests := if fault then tables.followRequests
          else removeFollowRequest tables.followRequests agentId sender none
        followers := if fault' then tables.followers
          else removeFollower tables.followers agentId sender } := by
  refine { refl sender agentId tables with
    followers := ?_, followRequests := ?_, followRequestsKept := ?_ }
  · intro row other
    split
    · exact Iff.rfl
    · refine List.mem_filter.trans (and_iff_left ?_)
      simp [FollowerRecord.key, other]
  · intro row mem
    dsimp only at mem
    split at mem
    · exact .inl mem
    · exact .inl (List.mem_of_mem_filter mem)
  · intro row mem
    dsimp only
    by_cases follower : row.followerActorUrl = sender
    · exact .inr (.inl follower)
    · left
      split
      · exact mem
      · refine List.mem_filter.mpr ⟨mem, ?_⟩
        simp [FollowRequestRecord.key, follower]

end NamesSender

section
variable {config : InboundConfig} {web : Nat → Fetch} {delivery : Delivery}

theorem claim_resolves
    (authored : isForwarded (delivery.over config.bridge.parsers web) signer claimed = false) :
    claimed.asStr = signer.id.asStr ∨ ∃ actor,
      fetchRemoteActor config.bridge.parsers (web 2) (web 3) claimed = .ok actor ∧
        actor.id.asStr = signer.id.asStr := by
  unfold isForwarded classifyProvenance at authored
  by_cases own : signer.id.asStr = claimed.asStr
  · exact .inl own.symm
  · rw [if_neg own] at authored
    split at authored
    · rename_i provenance
      split at provenance <;> cases provenance
    · cases authored
    · split at authored
      · rename_i resolved fetched
        exact .inr ⟨resolved, fetched, by simpa using authored⟩
      · cases authored

theorem vouched_of_verified
    (verifies : verifyDelivery config store (delivery.over config.bridge.parsers web) =
      .ok verified) :
    store.actorByHandle delivery.handle = some verified.record ∧
      config.parseJson delivery.body = some verified.activity ∧
      KeyVouched config web (delivery.over config.bridge.parsers web) verified.signer.id.asStr ∧
      ClaimResolves config web verified.signer.id.asStr verified.activity := by
  obtain ⟨claimed, signerUrl, pem, admits⟩ := verifyDelivery_eq_ok.mp verifies
  refine ⟨admits.found, admits.decoded, ?_, ?_⟩
  · rcases fetchRemoteActor_eq_ok admits.fetched with served | served
    · exact ⟨0, verified.signer, pem, served, rfl, admits.carries, admits.signed⟩
    · exact ⟨1, verified.signer, pem, served, rfl, admits.carries, admits.signed⟩
  · obtain ⟨text, named, parsed⟩ := admits.names
    exact ⟨text, claimed, named, parsed, claim_resolves admits.authored⟩

end

/-- The tables afterwards are the work of a sender whose own address vouches for the key and who
authored the activity. Acceptances and rejections leave everything but the follows alone. -/
def Attributed (config : InboundConfig) (store : Store) (delivery : Delivery) (web : Nat → Fetch)
    (before after : Tables) : Prop :=
  ∃ record activity sender, store.actorByHandle delivery.handle = some record ∧
    config.parseJson delivery.body = some activity ∧
    KeyVouched config web (delivery.over config.bridge.parsers web) sender ∧
    ClaimResolves config web sender activity ∧
    NamesSender sender record.agentId before after ∧
    ((activity.get "type").bind Value.asStr ∈ [some "Accept", some "Reject"] →
      after = { before with following := after.following })

/-- Whatever the servers answer, a request that writes anything is attributed. -/
theorem inbox_writes_attributed (config : InboundConfig) (store : Store) (tables : Tables)
    (delivery : Delivery) (web : Nat → Fetch) :
    let after := (postInbox config store tables (delivery.over config.bridge.parsers web)).2
    after = tables ∨ Attributed config store delivery web tables after := by
  apply postInbox_cases config store tables (delivery.over config.bridge.parsers web)
    (motive := fun after => after = tables ∨ Attributed config store delivery web tables after)
  case same => exact .inl rfl
  case create =>
    intro verified message verifies kind offers _
    obtain ⟨found, decoded, keyed, claims⟩ := vouched_of_verified verifies
    refine .inr ⟨_, _, _, found, decoded, keyed, claims, .message (composeMessage_sender offers),
      ?_⟩
    intro answers
    rw [kind] at answers
    exact absurd answers (by decide)
  case accept =>
    intro verified followId verifies _ _ _
    obtain ⟨found, decoded, keyed, claims⟩ := vouched_of_verified verifies
    exact .inr ⟨_, _, _, found, decoded, keyed, claims, .followAccepted, fun _ => rfl⟩
  case reject =>
    intro verified followId verifies _ _ _
    obtain ⟨found, decoded, keyed, claims⟩ := vouched_of_verified verifies
    exact .inr ⟨_, _, _, found, decoded, keyed, claims, .followRejected, fun _ => rfl⟩
  case follow =>
    intro verified followId verifies kind _ _
    obtain ⟨found, decoded, keyed, claims⟩ := vouched_of_verified verifies
    refine .inr ⟨_, _, _, found, decoded, keyed, claims, .addFollowRequest, ?_⟩
    intro answers
    rw [kind] at answers
    exact absurd answers (by decide)
  case undo =>
    intro verified verifies kind _
    obtain ⟨found, decoded, keyed, claims⟩ := vouched_of_verified verifies
    refine .inr ⟨_, _, _, found, decoded, keyed, claims, .undo, ?_⟩
    intro answers
    rw [kind] at answers
    exact absurd answers (by decide)

end Fetchit.Bridge
