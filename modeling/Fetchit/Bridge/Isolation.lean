import Fetchit.Lib.Unwinding
import Fetchit.Bridge.OwnerReads

/-! Hosted accounts beside each other. Every statement on the follow graph names the actor whose
rows it is about, except that the ids of the follows are unique across actors. -/
namespace Fetchit.Bridge
open Lib Lib.Run Lib.Unwinding Lib.Outcome Fedi Fedi.Json Proto.Identity Following

structure BridgeState where
  store : Store
  tables : Tables

inductive BridgeEvent where
  | register (body : Value) (nowMs : Int) (fault : Option String)
  | owner (endpoint : Endpoint) (request : OwnerRequest) (serving : Serving)
  | read (endpoint : ReadEndpoint) (request : ReadRequest) (reading : Reading)
  | inbound (delivery : Delivery)

inductive Answer where
  | response (response : Response)
  | listing (outcome : Except Response Listing)
  deriving DecidableEq

section
variable (config : FollowConfig)

def bridgeStep (state : BridgeState) : BridgeEvent → BridgeState
  | .register body nowMs fault =>
    { state with store := (register config.inbound.bridge state.store body nowMs fault).2 }
  | .owner endpoint request serving =>
    { state with tables := (serve config state.store endpoint request serving state.tables).2 }
  | .read _ _ _ => state
  | .inbound delivery =>
    { state with tables := (postInbox config.inbound state.store state.tables delivery).2 }

def requester (store : Store) : BridgeEvent → Option String
  | .owner endpoint request serving =>
    (authRequest config store endpoint request serving).toOption.map ActorRecord.agentId
  | .read endpoint request reading =>
    (authRead config.inbound.bridge store endpoint request reading).toOption.map
      ActorRecord.agentId
  | _ => none

def writesAs (agentId : String) (state : BridgeState) : BridgeEvent → Bool
  | .owner endpoint request serving =>
    requester config state.store (.owner endpoint request serving) == some agentId
  | _ => false

def answerTo (agentId : String) (state : BridgeState) (event : BridgeEvent) : Option Answer :=
  match event with
  | .register body nowMs fault =>
    some (.response (register config.inbound.bridge state.store body nowMs fault).1)
  | .owner endpoint request serving =>
    if requester config state.store event = some agentId then
      some (.response (serve config state.store endpoint request serving state.tables).1)
    else none
  | .read endpoint request reading =>
    if requester config state.store event = some agentId then
      some (.listing
        (read config.inbound.bridge state.store state.tables endpoint request reading))
    else none
  | .inbound _ => none

def Clear (agentId : String) (state : BridgeState) : BridgeEvent → Prop
  | .owner .recordFollow request serving =>
    requester config state.store (.owner .recordFollow request serving) ≠ some agentId →
      ∀ req ∈ config.followBody request.body, ∀ row ∈ state.tables.following.table.rows,
        row.actorId = agentId → row.followActivityId ≠ req.followActivityId
  | _ => True

end

def Tables.rowsOf (tables : Tables) (agentId : String) :
    List FollowingRecord × List FollowerRecord × List FollowRequestRecord :=
  (tables.following.table.rows.filter fun row => row.actorId = agentId,
    tables.followers.rows.filter fun row => row.actorId = agentId,
    tables.followRequests.rows.filter fun row => row.actorId = agentId)

/-- The tables agree once the rows of the agent are overlooked, and the second ones hold no follow
of the agent. -/
structure Alike (agentId : String) (first second : Tables) : Prop where
  following : first.following.table.view (fun row => row.actorId ≠ agentId) =
    second.following.table.rows
  absent : ∀ row ∈ second.following.table.rows, row.actorId ≠ agentId
  followers : first.followers.view (fun row => row.actorId ≠ agentId) =
    second.followers.view fun row => row.actorId ≠ agentId
  followRequests : first.followRequests.view (fun row => row.actorId ≠ agentId) =
    second.followRequests.view fun row => row.actorId ≠ agentId
  inboxMessages : first.inboxMessages = second.inboxMessages

namespace Alike

variable {agentId : String} {first second : Tables}

theorem following_view (alike : Alike agentId first second) :
    first.following.table.view (fun row => row.actorId ≠ agentId) =
      second.following.table.view fun row => row.actorId ≠ agentId := by
  rw [alike.following]
  refine (List.filter_eq_self.mpr ?_).symm
  intro row mem
  simpa using alike.absent row mem

theorem filter_eq {Row : Type} {owner : Row → String} {rows rows' : List Row}
    (apart : other ≠ agentId)
    (same : rows.filter (fun row => decide (owner row ≠ agentId)) =
      rows'.filter fun row => decide (owner row ≠ agentId)) :
    rows.filter (fun row => owner row = other) = rows'.filter fun row => owner row = other := by
  have inside : ∀ list : List Row, list.filter (fun row => owner row = other) =
      (list.filter fun row => decide (owner row ≠ agentId)).filter fun row => owner row = other := by
    intro list
    rw [List.filter_filter]
    refine List.filter_congr ?_
    intro row _
    by_cases own : owner row = other
    · simp [own, apart]
    · simp [own]
  rw [inside rows, inside rows', same]

section
variable (alike : Alike agentId first second) (apart : other ≠ agentId)
include alike apart

theorem rowsOf_eq :
    first.rowsOf other = second.rowsOf other := by
  unfold Tables.rowsOf
  rw [filter_eq apart alike.following_view, filter_eq apart alike.followers,
    filter_eq apart alike.followRequests]

theorem listing_eq
    (endpoint : ReadEndpoint) : listing first other endpoint = listing second other endpoint := by
  cases endpoint with
  | followingList =>
    unfold listing followingList
    rw [filter_eq apart alike.following_view]
  | followersList =>
    unfold listing followersList
    rw [filter_eq apart alike.followers]
  | followRequests =>
    unfold listing newestRequests
    rw [filter_eq apart alike.followRequests]
  | getMessages sinceMs =>
    unfold listing
    rw [alike.inboxMessages]

end

theorem evictFollowRequests_congr
    (same : requests.view (fun row => row.actorId ≠ agentId) =
      requests'.view fun row => row.actorId ≠ agentId) :
    (evictFollowRequests requests actor).view (fun row => row.actorId ≠ agentId) =
      (evictFollowRequests requests' actor).view fun row => row.actorId ≠ agentId := by
  by_cases apart : actor = agentId
  · have hidden : ∀ (kept : List String) (row : FollowRequestRecord),
        (row.actorId = actor && !kept.contains row.followerActorUrl) = true →
          decide (row.actorId ≠ agentId) = false := by
      intro kept row chosen
      simp only [Bool.and_eq_true, decide_eq_true_eq] at chosen
      simp [chosen.1, apart]
    unfold evictFollowRequests
    rw [Table.view_deleteWhere_of_hidden (hidden _), Table.view_deleteWhere_of_hidden (hidden _),
      same]
  · unfold evictFollowRequests newestRequests
    rw [Table.view_deleteWhere, Table.view_deleteWhere, same, filter_eq apart same]

theorem addFollowRequest_congr
    (same : requests.view (fun row => row.actorId ≠ agentId) =
      requests'.view fun row => row.actorId ≠ agentId) :
    (addFollowRequest requests actor follower inbox followId nowMs fault).view
        (fun row => row.actorId ≠ agentId) =
      (addFollowRequest requests' actor follower inbox followId nowMs fault).view
        fun row => row.actorId ≠ agentId := by
  have owned : ∀ row : FollowRequestRecord, row.key = (actor, follower) → row.actorId = actor :=
    fun row own => congrArg Prod.fst own
  have queued : (requests.upsert ⟨actor, follower, inbox, followId, storedMs nowMs⟩).view
      (fun row => row.actorId ≠ agentId) =
        (requests'.upsert ⟨actor, follower, inbox, followId, storedMs nowMs⟩).view
          fun row => row.actorId ≠ agentId := by
    by_cases apart : actor = agentId
    · have hidden : ∀ row : FollowRequestRecord, row.key = (actor, follower) →
          decide (row.actorId ≠ agentId) = false := by
        intro row own
        simp [owned row own, apart]
      rw [Table.view_upsert_of_hidden hidden, Table.view_upsert_of_hidden hidden, same]
    · refine Table.upsert_congr ?_ same
      intro row own
      simp [owned row own, apart]
  cases fault with
  | true => exact queued
  | false => exact evictFollowRequests_congr queued

theorem deleteWhere_congr {Row Key : Type} {key : Row → Key} {owner : Row → String}
    {table table' : Table key} {chosen : Row → Bool}
    (same : table.view (fun row => decide (owner row ≠ agentId)) =
      table'.view fun row => decide (owner row ≠ agentId)) :
    (table.deleteWhere chosen).view (fun row => decide (owner row ≠ agentId)) =
      (table'.deleteWhere chosen).view fun row => decide (owner row ≠ agentId) := by
  rw [Table.view_deleteWhere, Table.view_deleteWhere, same]

section
variable (alike : Alike agentId first second)
include alike

theorem followRejected (followId target : String) :
    Alike agentId
      { first with following := first.following.followRejected followId target }
      { second with following := second.following.followRejected followId target } :=
  { alike with
    following := by
      refine Table.view_deleteWhere.trans ?_
      rw [alike.following]
      rfl
    absent := fun row mem => alike.absent row (List.mem_of_mem_filter mem) }

theorem followAccepted (followId target actor : String) :
    Alike agentId
      { first with following := first.following.followAccepted followId target actor }
      { second with following := second.following.followAccepted followId target actor } :=
  { alike with
    following := by
      unfold Following.followAccepted
      rw [Table.view_update, alike.following]
      · rfl
      · intro row
        split <;> rfl
    absent := by
      intro row mem
      obtain ⟨old, there, rfl⟩ := List.mem_map.mp mem
      split
      · exact alike.absent old there
      · exact alike.absent old there }

theorem postInbox (config : InboundConfig) (store : Store)
    (delivery : Delivery) :
    Alike agentId (postInbox config store first delivery).2
      (postInbox config store second delivery).2 := by
  unfold Bridge.postInbox
  split
  · exact alike
  · unfold dispatch
    split
    · unfold handleCreate
      split
      · exact alike
      · split
        · exact alike
        · exact { alike with inboxMessages := by rw [alike.inboxMessages] }
    · unfold handleAccept
      split
      · exact alike
      · split
        · exact alike
        · exact alike.followAccepted _ _ _
    · unfold handleReject
      split
      · exact alike
      · split
        · exact alike
        · exact alike.followRejected _ _
    · rw [handleFollow_eq, handleFollow_eq]
      split
      · exact alike
      · split
        · exact alike
        · exact { alike with followRequests := addFollowRequest_congr alike.followRequests }
    · rw [handleUndo_eq, handleUndo_eq]
      split
      · exact { alike with
          followers := by
            split
            · exact alike.followers
            · exact deleteWhere_congr alike.followers
          followRequests := by
            dsimp only
            split
            · exact alike.followRequests
            · exact deleteWhere_congr alike.followRequests }
      · exact alike
    · exact alike

end

section
variable {actor target : String}

theorem following_key (apart : actor ≠ agentId) (row : FollowingRecord)
    (own : row.key = (actor, target)) : decide (row.actorId ≠ agentId) = true := by
  have owner : row.actorId = actor := congrArg Prod.fst own
  simp [owner, apart]

section
variable (alike : Alike agentId first second)
include alike

theorem find?_eq (apart : actor ≠ agentId) :
    first.following.table.find? (actor, target) =
      second.following.table.find? (actor, target) := by
  rw [Table.find?_eq_view (following_key apart), alike.following]
  rfl

theorem holdsId_eq (clear : ∀ row ∈ first.following.table.rows, row.actorId = agentId →
      row.followActivityId ≠ followId) :
    first.following.holdsId followId = second.following.holdsId followId := by
  unfold holdsId
  rw [← alike.following]
  unfold Table.view
  rw [List.any_filter, Bool.eq_iff_iff, List.any_eq_true, List.any_eq_true]
  refine exists_congr fun row => and_congr_right fun mem => ?_
  by_cases own : row.actorId = agentId
  · simp [clear row mem own]
  · simp [own]

theorem followRequest (apart : actor ≠ agentId)
    (clear : ∀ row ∈ first.following.table.rows, row.actorId = agentId →
      row.followActivityId ≠ followId) :
    (first.following.followRequest actor target inbox followId nowMs).1 =
        (second.following.followRequest actor target inbox followId nowMs).1 ∧
      Alike agentId
        { first with
          following := (first.following.followRequest actor target inbox followId nowMs).2 }
        { second with
          following := (second.following.followRequest actor target inbox followId nowMs).2 } := by
  unfold Following.followRequest
  rw [alike.find?_eq apart]
  cases second.following.table.find? (actor, target) with
  | some row =>
    dsimp only
    split <;> exact ⟨rfl, alike⟩
  | none =>
    generalize added : (⟨actor, target, inbox, .pending, followId, storedMs nowMs⟩ :
      FollowingRecord) = row
    have key : row.key = (actor, target) := by rw [← added]; rfl
    have owner : row.actorId = actor := congrArg Prod.fst key
    have blocked : first.following.insert row = none ↔ second.following.insert row = none := by
      rw [insert_eq_none, insert_eq_none, key,
        Table.holds_congr (following_key apart) alike.following_view, ← added,
        alike.holdsId_eq clear]
    cases inserted : first.following.insert row with
    | none =>
      rw [blocked.mp inserted]
      exact ⟨rfl, alike⟩
    | some following =>
      cases inserted' : second.following.insert row with
      | none => cases inserted.symm.trans (blocked.mpr inserted')
      | some following' =>
        refine ⟨rfl, { alike with following := ?_, absent := ?_ }⟩
        · have visible : [row].filter (fun row => decide (row.actorId ≠ agentId)) = [row] :=
            List.filter_cons_of_pos (following_key apart row key)
          unfold Table.view
          rw [rows_insert inserted, rows_insert inserted', List.filter_append,
            visible]
          exact congrArg (· ++ [row]) alike.following
        · intro other mem
          rw [rows_insert inserted', List.mem_append, List.mem_singleton] at mem
          rcases mem with mem | rfl
          · exact alike.absent other mem
          · rw [owner]
            exact apart

theorem unfollow (apart : actor ≠ agentId) :
    (first.following.unfollow actor target).1 = (second.following.unfollow actor target).1 ∧
      Alike agentId { first with following := (first.following.unfollow actor target).2 }
        { second with following := (second.following.unfollow actor target).2 } := by
  unfold Following.unfollow
  rw [alike.find?_eq apart]
  cases second.following.table.find? (actor, target) with
  | none => exact ⟨rfl, alike⟩
  | some row =>
    refine ⟨rfl, { alike with following := ?_, absent := ?_ }⟩
    · refine Table.view_deleteWhere.trans ?_
      rw [alike.following]
      rfl
    · intro other mem
      exact alike.absent other (List.mem_of_mem_filter mem)

end

end

theorem handle (alike : Alike agentId first second) (config : FollowConfig) (endpoint : Endpoint)
    (request : OwnerRequest) (serving : Serving) (apart : actor ≠ agentId)
    (clear : endpoint = .recordFollow → ∀ req ∈ config.followBody request.body,
      ∀ row ∈ first.following.table.rows, row.actorId = agentId →
        row.followActivityId ≠ req.followActivityId) :
    (handle config endpoint actor request serving first).1 =
        (handle config endpoint actor request serving second).1 ∧
      Alike agentId (handle config endpoint actor request serving first).2
        (handle config endpoint actor request serving second).2 := by
  cases endpoint with
  | recordFollow =>
    dsimp only [Bridge.handle]
    unfold recordFollow
    cases decoded : config.followBody request.body with
    | none => exact ⟨rfl, alike⟩
    | some req =>
      dsimp only [withBody]
      split
      · exact ⟨rfl, alike⟩
      · split
        · exact ⟨rfl, alike⟩
        · obtain ⟨outcome, after⟩ := alike.followRequest apart (clear rfl req decoded)
          rw [outcome]
          exact ⟨rfl, after⟩
  | unfollow =>
    dsimp only [Bridge.handle]
    unfold Bridge.unfollow
    cases config.unfollowBody request.body with
    | none => exact ⟨rfl, alike⟩
    | some req =>
      dsimp only [withBody]
      split
      · exact ⟨rfl, alike⟩
      · obtain ⟨removed, after⟩ := alike.unfollow apart
        rw [removed]
        exact ⟨rfl, after⟩
  | confirmFollower =>
    dsimp only [Bridge.handle]
    unfold confirmFollower
    cases config.confirmFollowerBody request.body with
    | none => exact ⟨rfl, alike⟩
    | some req =>
      dsimp only [withBody]
      split
      · exact ⟨rfl, alike⟩
      · split
        · exact ⟨rfl, alike⟩
        · have kept : ∀ row : FollowerRecord, row.key = (actor, req.followerActorUrl) →
              decide (row.actorId ≠ agentId) = true := by
            intro row own
            have owner : row.actorId = actor := congrArg Prod.fst own
            simp [owner, apart]
          obtain ⟨created, after⟩ := Table.insertOrIgnore_congr ⟨actor, req.followerActorUrl,
            req.followerInboxUrl, storedMs serving.writeMs.toNat⟩ kept alike.followers
          unfold addFollower
          rw [created]
          refine ⟨rfl, { alike with followers := after, followRequests := ?_ }⟩
          dsimp only
          split
          · exact alike.followRequests
          · exact deleteWhere_congr alike.followRequests

theorem ownHandle (alike : Alike agentId first second) :
    Alike agentId (Bridge.handle config endpoint agentId request serving first).2 second := by
  cases endpoint with
  | recordFollow =>
    dsimp only [Bridge.handle]
    unfold recordFollow
    cases config.followBody request.body with
    | none => exact alike
    | some req =>
      dsimp only [withBody]
      split
      · exact alike
      · split
        · exact alike
        · unfold Following.followRequest
          dsimp only
          split
          · split <;> exact alike
          · split
            · rename_i inserted
              refine { alike with following := ?_ }
              unfold Table.view
              rw [rows_insert inserted, List.filter_append,
                List.filter_cons_of_neg (by simp), List.filter_nil, List.append_nil]
              exact alike.following
            · exact alike
  | unfollow =>
    dsimp only [Bridge.handle]
    unfold Bridge.unfollow
    cases config.unfollowBody request.body with
    | none => exact alike
    | some req =>
      dsimp only [withBody]
      split
      · exact alike
      · unfold Following.unfollow
        split
        · refine { alike with following := ?_ }
          refine (Table.view_deleteWhere_of_hidden ?_).trans alike.following
          intro row chosen
          have owner : row.actorId = agentId := congrArg Prod.fst (of_decide_eq_true chosen)
          simp [owner]
        · exact alike
  | confirmFollower =>
    dsimp only [Bridge.handle]
    unfold confirmFollower
    cases config.confirmFollowerBody request.body with
    | none => exact alike
    | some req =>
      dsimp only [withBody]
      split
      · exact alike
      · split
        · exact alike
        · refine { alike with followers := ?_, followRequests := ?_ }
          · exact (Table.view_insertOrIgnore_of_hidden (by simp)).trans alike.followers
          dsimp only
          split
          · exact alike.followRequests
          · refine (Table.view_deleteWhere_of_hidden ?_).trans alike.followRequests
            intro row chosen
            simp only [Bool.and_eq_true, decide_eq_true_eq] at chosen
            have owner : row.actorId = agentId := congrArg Prod.fst chosen.1
            simp [owner]

end Alike

section
variable {config : FollowConfig} {agent other : String} {first second : BridgeState}
  {event : BridgeEvent}

structure AlikeStates (agentId : String) (first second : BridgeState) : Prop where
  store : first.store = second.store
  tables : Alike agentId first.tables second.tables

section
variable (apart : agent ≠ other) (alike : AlikeStates other first second)
include apart alike

theorem quiet_step (hidden : writesAs config other first event = true) :
    AlikeStates other (bridgeStep config first event) second ∧
      answerTo config agent first event = none := by
  cases event with
  | register | read | inbound => cases hidden
  | owner endpoint request serving =>
    have named : requester config first.store (.owner endpoint request serving) = some other :=
      eq_of_beq hidden
    constructor
    · refine ⟨alike.store, ?_⟩
      dsimp only [bridgeStep]
      unfold serve
      dsimp only [requester] at named
      cases passes : authRequest config first.store endpoint request serving with
      | error response => exact alike.tables
      | ok record =>
        rw [passes] at named
        cases named
        exact alike.tables.ownHandle
    · dsimp only [answerTo]
      rw [named, if_neg]
      intro same
      exact apart (Option.some.inj same).symm

theorem visible_step
    (clear : Clear config other first event) (visible : writesAs config other first event = false) :
    AlikeStates other (bridgeStep config first event) (bridgeStep config second event) ∧
      answerTo config agent first event = answerTo config agent second event := by
  obtain ⟨store, tables⟩ := alike
  cases event with
  | register body nowMs fault =>
    dsimp only [bridgeStep, answerTo]
    rw [store]
    exact ⟨⟨rfl, tables⟩, rfl⟩
  | owner endpoint request serving =>
    have someone : requester config first.store (.owner endpoint request serving) ≠ some other := by
      intro named
      rw [writesAs, named] at visible
      simp at visible
    have unique : endpoint = .recordFollow → ∀ req ∈ config.followBody request.body,
        ∀ row ∈ first.tables.following.table.rows, row.actorId = other →
          row.followActivityId ≠ req.followActivityId := by
      rintro rfl
      exact clear someone
    have served : (serve config first.store endpoint request serving first.tables).1 =
          (serve config first.store endpoint request serving second.tables).1 ∧
        Alike other (serve config first.store endpoint request serving first.tables).2
          (serve config first.store endpoint request serving second.tables).2 := by
      unfold serve
      dsimp only [requester] at someone
      cases passes : authRequest config first.store endpoint request serving with
      | error response => exact ⟨rfl, tables⟩
      | ok record =>
        rw [passes] at someone
        have foreign : record.agentId ≠ other := fun same => someone (congrArg some same)
        exact tables.handle config endpoint request serving foreign unique
    dsimp only [bridgeStep, answerTo]
    rw [← store, served.1]
    exact ⟨⟨rfl, served.2⟩, rfl⟩
  | read endpoint request reading =>
    refine ⟨⟨store, tables⟩, ?_⟩
    dsimp only [answerTo]
    rw [← store]
    split
    · rename_i named
      dsimp only [requester] at named
      unfold read
      cases passes : authRead config.inbound.bridge first.store endpoint request reading with
      | error response => rfl
      | ok record =>
        rw [passes] at named
        cases named
        simp only [ok_bind]
        rw [tables.listing_eq apart]
    · rfl
  | inbound delivery =>
    dsimp only [bridgeStep]
    rw [store]
    exact ⟨⟨rfl, tables.postInbox _ _ _⟩, rfl⟩

end

end

/-- Without the other agent's writes to the follow graph, an agent gets the same answers and has
the same rows, provided that nobody reuses an id of the other's follows. -/
theorem follow_graph_isolated (config : FollowConfig) (store : Store) (agent other : String)
    (apart : agent ≠ other) (events : List BridgeEvent)
    (clear : Meets (bridgeStep config) (Clear config other) ⟨store, .empty⟩ events) :
    let start : BridgeState := ⟨store, .empty⟩
    let stripped := purge (bridgeStep config) (writesAs config other) start events
    observed (bridgeStep config) (answerTo config agent) start events =
        observed (bridgeStep config) (answerTo config agent) start stripped ∧
      (run (bridgeStep config) start events).tables.rowsOf agent =
        (run (bridgeStep config) start stripped).tables.rowsOf agent := by
  intro start stripped
  have same : AlikeStates other start start := by
    refine ⟨rfl, rfl, ?_, rfl, rfl, rfl⟩
    intro row mem
    cases mem
  have quiet : ∀ first second event, AlikeStates other first second →
      Clear config other first event → writesAs config other first event = true →
        AlikeStates other (bridgeStep config first event) second ∧
          answerTo config agent first event = none :=
    fun first second event alike _ hidden => quiet_step apart alike hidden
  obtain ⟨final, answers⟩ := unwinding quiet
    (fun first second event alike clear visible => visible_step apart alike clear visible)
    events start start same clear
  exact ⟨answers, final.tables.rowsOf_eq apart⟩

def otherOwner : Actor :=
  { followOwner with
    id := followUrl "v"
    preferredUsername := "g"
    mlDsaAttestation := ⟨[2], [2]⟩ }

def otherAgent : String := hexId (deriveAgentId (idealCrypto []) [2])

def otherRecord : ActorRecord := ⟨otherAgent, "g", "v", otherOwner.toJsonLd, 0⟩

def sharedStore : Store :=
  ⟨[followRecord, otherRecord], List.pairwise_pair.mpr ⟨by decide +kernel, by decide⟩⟩

def sharedConfig (followId : String) : FollowConfig :=
  { followConfig with
    inbound := { followConfig.inbound with
      bridge := ⟨idealCrypto [
          ([1], agentSignInput (canonicalRequest (idealCrypto []) "POST" "/actors/h/following"
            784111777000 [1])),
          ([2], agentSignInput (canonicalRequest (idealCrypto []) "POST" "/actors/g/following"
            784111777000 [2]))],
        ⟨fun text => .ok (followUrl text), id, fun _ => ""⟩, "b", []⟩ }
    followBody := fun body =>
      if body = [1] then some ⟨"t", "t", "f"⟩ else some ⟨"x", "x", followId⟩ }

def otherFollow : OwnerRequest :=
  ⟨"g", signedHeaders (deriveAgentId (idealCrypto []) [2]) "784111777000" [2], [2]⟩

def sharedRun : List BridgeEvent :=
  [.owner .recordFollow otherFollow (servedAt 784111777000),
    .owner .recordFollow followOnce (servedAt 784111777000)]

theorem agents_apart : followAgent ≠ otherAgent := by
  decide +kernel

theorem distinct_ids_isolated :
    let start : BridgeState := ⟨sharedStore, .empty⟩
    let config := sharedConfig "e"
    let stripped := purge (bridgeStep config) (writesAs config otherAgent) start sharedRun
    observed (bridgeStep config) (answerTo config followAgent) start sharedRun =
        observed (bridgeStep config) (answerTo config followAgent) start stripped ∧
      (run (bridgeStep config) start sharedRun).tables.rowsOf followAgent =
        (run (bridgeStep config) start stripped).tables.rowsOf followAgent := by
  apply follow_graph_isolated (sharedConfig "e") sharedStore followAgent otherAgent agents_apart
  unfold sharedRun
  rw [meets_cons, meets_cons, meets_nil, and_true]
  have other : requester (sharedConfig "e") sharedStore
      (.owner .recordFollow otherFollow (servedAt 784111777000)) = some otherAgent := by
    decide +kernel
  constructor
  · intro someone
    exact absurd other someone
  · intro _ req decoded row mem _
    cases decoded
    revert row
    decide +kernel

/-- The other owner has used the id, and our follow is refused; without the other's follow it is
recorded. -/
theorem shared_id_interferes :
    let start : BridgeState := ⟨sharedStore, .empty⟩
    let config := sharedConfig "f"
    let stripped := purge (bridgeStep config) (writesAs config otherAgent) start sharedRun
    observed (bridgeStep config) (answerTo config followAgent) start sharedRun =
        [.response ⟨500, "store error"⟩] ∧
      observed (bridgeStep config) (answerTo config followAgent) start stripped =
        [.response ⟨201, "pending"⟩] := by
  decide +kernel

end Fetchit.Bridge
