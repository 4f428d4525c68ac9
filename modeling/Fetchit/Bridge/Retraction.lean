import Fetchit.Lib.SortedMap
import Fetchit.Bridge.Acknowledgement
import Fetchit.Bridge.OwnerReads

/-! Following and retracting a follow while the owner's device answers requests. The device reads
the queue once, delivers its acceptances one by one and then confirms each follower at the bridge;
remote servers post in between. -/
namespace Fetchit.Bridge
open Lib Lib.Run Fedi.Json Proto.Identity

/-- The owner's device: what it signs with, and how it writes the body of a confirmation. -/
structure Device (config : FollowConfig) where
  handle : String
  agent : AgentId
  sign : Bytes → Bytes
  encode : ConfirmFollowerBody → Bytes
  /-- What the bridge decodes is what the device wrote. -/
  decodes : ∀ body decoded, config.confirmFollowerBody (encode body) = some decoded →
    decoded = body

structure FollowRequestEntry where
  followerActorUrl : String
  followerInboxUrl : String
  followActivityId : String
  deriving DecidableEq

def FollowRequestRecord.entry (row : FollowRequestRecord) : FollowRequestEntry :=
  ⟨row.followerActorUrl, row.followerInboxUrl, row.followActivityId⟩

structure Confirm where
  nowMs : UInt64
  entry : FollowRequestEntry
  deriving DecidableEq

structure Pass where
  nowMs : UInt64
  todo : List FollowRequestEntry
  deriving DecidableEq

structure Sync where
  tables : Tables
  marks : SortedMap String UInt64
  passes : Nat → Option Pass
  outstanding : List Confirm

def Sync.start : Sync := ⟨.empty, .empty, fun _ => none, []⟩

def acceptRetryCooldownMs : Nat := 10 * 60 * 1000

def maxTrackedMarks : Nat := 10000

def inboundMarkKey (followId : String) : String := "in:" ++ followId

def shouldAttemptAccept (nowMs : UInt64) (lastAttemptMs : Option UInt64) : Bool :=
  match lastAttemptMs with
  | some last => acceptRetryCooldownMs ≤ nowMs.toNat - last.toNat
  | none => true

def markAttempt (marks : SortedMap String UInt64) (followId : String) (nowMs : UInt64) :
    SortedMap String UInt64 :=
  (if maxTrackedMarks < marks.entries.length then .empty else marks).insert followId nowMs

/-- A delivery reaches the bridge; a pass reads the queue; a pass answers its next request, which
the denylist may hold back and the remote inbox may refuse; a confirmation is served, or lost. -/
inductive SyncEvent where
  | inbound (delivery : Delivery)
  | fetch (pass : Nat) (nowMs : UInt64) (reading : Reading)
  | answer (pass : Nat) (denylisted delivered : Bool)
  | confirm (index : Nat) (serving : Serving)
  | lose (index : Nat)

section
variable {config : FollowConfig} (store : Store) (device : Device config)

def Device.signed (method resource : String) (nowMs : UInt64) (body : Bytes) : HeaderMap :=
  signedHeaders device.agent (toString nowMs.toNat)
    (device.sign (canonicalRequest config.inbound.bridge.crypto method
      s!"/actors/{device.handle}/{resource}" nowMs body))

def Device.confirmRequest (sent : Confirm) : OwnerRequest :=
  let body := device.encode ⟨sent.entry.followerActorUrl, sent.entry.followerInboxUrl,
    some sent.entry.followActivityId⟩
  ⟨device.handle, device.signed "POST" "followers/confirm" sent.nowMs body, body⟩

def fetchFollowRequests (tables : Tables) (nowMs : UInt64) (reading : Reading) :
    List FollowRequestEntry :=
  match read config.inbound.bridge store tables .followRequests
    ⟨device.handle, device.signed "GET" "follow-requests" nowMs []⟩ reading with
  | .ok (.requests items) => items.map FollowRequestRecord.entry
  | _ => []

/-- One turn of the loop over the requests. An attempt is marked before the delivery. -/
def answerNext (config : FollowConfig) (state : Sync) (pass : Nat) (denylisted delivered : Bool) :
    Sync :=
  match state.passes pass with
  | none => state
  | some ⟨_, []⟩ => state
  | some ⟨nowMs, entry :: todo⟩ =>
    let passes := Function.update state.passes pass (some ⟨nowMs, todo⟩)
    let markKey := inboundMarkKey entry.followActivityId
    if shouldAttemptAccept nowMs (state.marks.get? markKey) then
      let marks := markAttempt state.marks markKey nowMs
      if denylisted || (config.inbound.bridge.parsers.parseUrl
          entry.followerInboxUrl).toOption.isNone then { state with passes, marks }
      else { state with
        passes, marks
        outstanding :=
          if delivered then state.outstanding ++ [⟨nowMs, entry⟩] else state.outstanding }
    else { state with passes }

def syncStep (state : Sync) : SyncEvent → Sync
  | .inbound delivery =>
    { state with tables := (postInbox config.inbound store state.tables delivery).2 }
  | .fetch pass nowMs reading =>
    { state with
      passes := Function.update state.passes pass
        (some ⟨nowMs, fetchFollowRequests store device state.tables nowMs reading⟩) }
  | .answer pass denylisted delivered => answerNext config state pass denylisted delivered
  | .confirm index serving =>
    match state.outstanding[index]? with
    | none => state
    | some sent =>
      { state with
        tables := (serve config store .confirmFollower (device.confirmRequest sent) serving
          state.tables).2
        outstanding := state.outstanding.eraseIdx index }
  | .lose index => { state with outstanding := state.outstanding.eraseIdx index }

end

inductive FollowChange where
  | follow
  | undo
  deriving DecidableEq

section
variable (config : FollowConfig) (store : Store) (agentId follower : String)

def followChange (delivery : Delivery) : Option FollowChange :=
  match verifyDelivery config.inbound store delivery with
  | .error _ => none
  | .ok verified =>
    if verified.record.agentId = agentId ∧ verified.signer.id.asStr = follower then
      match (verified.activity.get "type").bind Value.asStr with
      | some "Follow" => if (askedFollow verified).isSome then some .follow else none
      | some "Undo" => if retracts verified then some .undo else none
      | _ => none
    else none

/-- Their retractions are written, and no confirmation for the follower is served. -/
def Unconfirmed (state : Sync) : SyncEvent → Prop
  | .inbound delivery => followChange config store agentId follower delivery = some .undo →
      delivery.writeFault = false ∧ delivery.secondWriteFault = false
  | .confirm index _ => ∀ sent ∈ state.outstanding[index]?, sent.entry.followerActorUrl ≠ follower
  | _ => True

end

def Gone (agentId follower : String) (tables : Tables) : Prop :=
  tables.followRequests.holds (agentId, follower) = false ∧
    tables.followers.holds (agentId, follower) = false

section
variable {config : FollowConfig} {store : Store} {agentId follower : String} {tables : Tables}
  {delivery : Delivery}

theorem followRequests_postInbox
    (h : (postInbox config.inbound store tables delivery).2.followRequests.holds
      (agentId, follower) = true) :
    tables.followRequests.holds (agentId, follower) = true ∨
      followChange config store agentId follower delivery = some .follow := by
  revert h
  apply postInbox_cases config.inbound store tables delivery (motive := fun after =>
    after.followRequests.holds (agentId, follower) = true →
      tables.followRequests.holds (agentId, follower) = true ∨
        followChange config store agentId follower delivery = some .follow)
  case same =>
    exact .inl
  case create =>
    intro verified message _ _ _ _
    exact .inl
  case accept =>
    intro verified followId _ _ _ _
    exact .inl
  case reject =>
    intro verified followId _ _ _ _
    exact .inl
  case follow =>
    intro verified followId verifies kind asked _ h
    refine (holds_of_addFollowRequest h).imp_right ?_
    intro same
    simp only [followChange, verifies, kind, asked]
    rw [if_pos ⟨congrArg Prod.fst same, congrArg Prod.snd same⟩]
    rfl
  case undo =>
    intro verified _ _ _ h
    dsimp only at h
    split at h
    · exact .inl h
    · exact .inl (Table.holds_of_deleteWhere h)

theorem followers_postInbox
    (h : (postInbox config.inbound store tables delivery).2.followers.holds key = true) :
    tables.followers.holds key = true := by
  revert h
  apply postInbox_cases config.inbound store tables delivery (motive := fun after =>
    after.followers.holds key = true → tables.followers.holds key = true)
  case same => exact id
  case create => exact fun _ _ _ _ _ _ => id
  case accept => exact fun _ _ _ _ _ _ => id
  case reject => exact fun _ _ _ _ _ _ => id
  case follow => exact fun _ _ _ _ _ _ => id
  case undo =>
    intro verified _ _ _ h
    split at h
    · exact h
    · exact Table.holds_of_deleteWhere h

theorem gone_of_inbound (gone : Gone agentId follower tables)
    (silent : followChange config store agentId follower delivery ≠ some .follow) :
    Gone agentId follower (postInbox config.inbound store tables delivery).2 := by
  constructor
  · rw [← Bool.not_eq_true]
    intro there
    rcases followRequests_postInbox there with old | asked
    · exact Bool.noConfusion (gone.1.symm.trans old)
    · exact silent asked
  · rw [← Bool.not_eq_true]
    intro there
    exact Bool.noConfusion (gone.2.symm.trans (followers_postInbox there))

section
variable (undoes : followChange config store agentId follower delivery = some .undo)
include undoes

theorem verified_of_undo :
    ∃ verified, verifyDelivery config.inbound store delivery = .ok verified ∧
      verified.record.agentId = agentId ∧ verified.signer.id.asStr = follower ∧
      (verified.activity.get "type").bind Value.asStr = some "Undo" ∧
      retracts verified = true := by
  unfold followChange at undoes
  split at undoes
  · cases undoes
  · rename_i verified verifies
    split at undoes
    · rename_i own
      split at undoes
      · split at undoes <;> cases undoes
      · rename_i kind
        split at undoes
        · rename_i retracted
          exact ⟨verified, verifies, own.1, own.2, kind, retracted⟩
        · cases undoes
      · cases undoes
    · cases undoes

theorem gone_of_undo
    (works : delivery.writeFault = false) (works' : delivery.secondWriteFault = false) :
    Gone agentId follower (postInbox config.inbound store tables delivery).2 := by
  obtain ⟨verified, verifies, rfl, rfl, kind, retracted⟩ := verified_of_undo undoes
  have after : (postInbox config.inbound store tables delivery).2 =
      handleUndo delivery verified tables := by
    simp only [postInbox, verifies, dispatch, kind]
  rw [after, handleUndo_eq, if_pos retracted, works, works']
  constructor
  all_goals
    rw [Table.holds_eq_false]
    intro row mem same
    have kept := (List.mem_filter.mp mem).2
    simp [same] at kept

end

theorem gone_of_confirm {device : Device config}
    (gone : Gone agentId follower tables) (other : sent.entry.followerActorUrl ≠ follower) :
    Gone agentId follower (serve config store .confirmFollower (device.confirmRequest sent) serving
      tables).2 := by
  unfold serve
  split
  · exact gone
  · dsimp only [handle]
    unfold confirmFollower Device.confirmRequest
    cases decoded : config.confirmFollowerBody (device.encode ⟨sent.entry.followerActorUrl,
        sent.entry.followerInboxUrl, some sent.entry.followActivityId⟩) with
    | none => exact gone
    | some req =>
      cases device.decodes _ _ decoded
      dsimp only [withBody]
      split
      · exact gone
      · split
        · exact gone
        · constructor
          · dsimp only
            split
            · exact gone.1
            · rw [← Bool.not_eq_true]
              intro there
              exact Bool.noConfusion (gone.1.symm.trans (Table.holds_of_deleteWhere there))
          · rw [← Bool.not_eq_true]
            intro there
            rcases Table.holds_insertOrIgnore.mp there with old | new
            · exact Bool.noConfusion (gone.2.symm.trans old)
            · exact other (congrArg Prod.snd new)

theorem gone_step {device : Device config} (gone : Gone agentId follower state.tables)
    (silent : ∀ delivery, event = .inbound delivery →
      followChange config store agentId follower delivery ≠ some .follow)
    (unconfirmed : Unconfirmed config store agentId follower state event) :
    Gone agentId follower (syncStep store device state event).tables := by
  cases event with
  | inbound delivery => exact gone_of_inbound gone (silent delivery rfl)
  | fetch | lose => exact gone
  | answer pass denylisted delivered =>
    dsimp only [syncStep]
    unfold answerNext
    split
    · exact gone
    · exact gone
    · dsimp only
      split
      · split <;> exact gone
      · exact gone
  | confirm index serving =>
    dsimp only [syncStep]
    cases found : state.outstanding[index]? with
    | none => exact gone
    | some sent =>
      dsimp only
      exact gone_of_confirm gone (unconfirmed sent found)

theorem gone_run {device : Device config}
    (silent : ∀ delivery, .inbound delivery ∈ events →
      followChange config store agentId follower delivery ≠ some .follow) :
    ∀ state : Sync, Gone agentId follower state.tables →
      Meets (syncStep store device) (Unconfirmed config store agentId follower) state events →
      Gone agentId follower (run (syncStep store device) state events).tables := by
  induction events with
  | nil =>
    intro state gone _
    exact gone
  | cons event events ih =>
    intro state gone meets
    refine ih (fun delivery mem => silent delivery (List.mem_cons_of_mem _ mem)) _ ?_ meets.2
    refine gone_step gone ?_ meets.1
    rintro delivery rfl
    exact silent delivery List.mem_cons_self

end

/-- Of a follower whose last activity was a retraction no request is queued, and they are not among
the followers, provided that no confirmation for them is served after it. -/
theorem retracted_follow_stays_gone {config : FollowConfig} (store : Store) (device : Device config)
    (agentId follower : String) (start : Sync) (before after : List SyncEvent) (undo : Delivery)
    (undoes : followChange config store agentId follower undo = some .undo)
    (last : ∀ delivery, .inbound delivery ∈ after →
      followChange config store agentId follower delivery ≠ some .follow)
    (unconfirmed : Meets (syncStep store device) (Unconfirmed config store agentId follower)
      (run (syncStep store device) start before) (.inbound undo :: after)) :
    Gone agentId follower
      (run (syncStep store device) start (before ++ .inbound undo :: after)).tables := by
  rw [run_append]
  have written := unconfirmed.1 undoes
  exact gone_run last _ (gone_of_undo undoes written.1 written.2) unconfirmed.2

def syncMs : UInt64 := 784111777000

def syncConfig : FollowConfig where
  inbound := { retractConfig with
    bridge := ⟨idealCrypto [
        ([1], agentSignInput (canonicalRequest (idealCrypto []) "GET" "/actors/h/follow-requests"
          syncMs [])),
        ([1], agentSignInput (canonicalRequest (idealCrypto []) "POST"
          "/actors/h/followers/confirm" syncMs [3]))],
      ⟨fun text => .ok (followUrl text), id, fun _ => ""⟩, "b", []⟩ }
  followBody := fun _ => none
  unfollowBody := fun _ => none
  confirmFollowerBody := fun body => if body = [3] then some ⟨"s", "s", some "f"⟩ else none

def syncDevice : Device syncConfig where
  handle := "h"
  agent := deriveAgentId (idealCrypto []) [1]
  sign := fun _ => [1]
  encode := fun body => if body = ⟨"s", "s", some "f"⟩ then [3] else []
  decodes := by
    intro body decoded h
    by_cases known : body = ⟨"s", "s", some "f"⟩
    · rw [if_pos known] at h
      cases h
      exact known.symm
    · rw [if_neg known] at h
      cases h

def answered : List SyncEvent :=
  [.inbound (inboundDelivery "s" 1), .fetch 0 syncMs ⟨syncMs, none, false⟩, .answer 0 false true]

theorem followChange_undo :
    followChange syncConfig followStore followAgent "s" (inboundDelivery "s" 2) = some .undo := by
  decide +kernel

/-- The confirmation comes before the retraction, and the device reads the queue again after it. -/
theorem timely_retraction_sticks :
    Gone followAgent "s" (run (syncStep followStore syncDevice) .start
      (answered ++ [.confirm 0 (servedAt syncMs)] ++ [.inbound (inboundDelivery "s" 2),
        .fetch 1 syncMs ⟨syncMs, none, false⟩, .answer 1 false true])).tables := by
  have sticks := retracted_follow_stays_gone followStore syncDevice followAgent "s" .start
    (answered ++ [.confirm 0 (servedAt syncMs)])
    [.fetch 1 syncMs ⟨syncMs, none, false⟩, .answer 1 false true] (inboundDelivery "s" 2)
    followChange_undo (by simp)
  apply sticks
  simp only [meets_cons, meets_nil, Unconfirmed, and_true]
  exact fun _ => ⟨rfl, rfl⟩

/-- The confirmation arrives after the retraction, and the follower is back for good: nothing is
on its way any more. -/
theorem late_confirmation_restores_follower :
    let state := run (syncStep followStore syncDevice) .start
      (answered ++ [.inbound (inboundDelivery "s" 2), .confirm 0 (servedAt syncMs)])
    followChange syncConfig followStore followAgent "s" (inboundDelivery "s" 2) = some .undo ∧
      state.outstanding = [] ∧
      state.tables.followers.rows = [⟨followAgent, "s", "s", 784111777000⟩] := by
  decide +kernel

end Fetchit.Bridge
