import Fetchit.Bridge.Suppression

/-! What an answer of the inbox promises. A remote server stops retrying once it has read a
success, and four of the five handlers answer one whether or not the store took their writes. -/
namespace Fetchit.Bridge
open Lib Fedi Fedi.Json

def Response.isSuccess (response : Response) : Bool :=
  200 ≤ response.status && response.status < 300

def Delivery.faultless (delivery : Delivery) : Delivery :=
  { delivery with writeFault := false, secondWriteFault := false }

def calledFor (config : InboundConfig) (delivery : Delivery) (verified : Verified)
    (tables : Tables) : Tables :=
  (dispatch config delivery.faultless verified tables).2

section
variable (delivery : Delivery) (verified : Verified) (tables : Tables)

def requestRow (followId : String) : FollowRequestRecord :=
  ⟨verified.record.agentId, verified.signer.id.asStr, verified.signer.inbox.asStr, followId,
    storedMs delivery.nowMs.toNat⟩

/-- The writes that failed had nothing to do. A failed `Create` is answered with an error, so
nothing is asked of it. -/
def FaultsIdle : Prop :=
  match (verified.activity.get "type").bind Value.asStr with
  | some "Create" => True
  | some "Accept" => delivery.writeFault = true → ∀ followId ∈ objectId verified.activity,
      ∀ row ∈ tables.following.table.rows, ¬(row.followActivityId = followId ∧
        row.state = .pending ∧ row.targetActorUrl = verified.signer.id.asStr ∧
        row.actorId = verified.record.agentId)
  | some "Reject" => delivery.writeFault = true → ∀ followId ∈ objectId verified.activity,
      ∀ row ∈ tables.following.table.rows, row.followActivityId = followId →
        row.targetActorUrl ≠ verified.signer.id.asStr
  | some "Follow" => ∀ followId ∈ askedFollow verified,
      let row := requestRow delivery verified followId
      if delivery.writeFault then Redundant tables.followRequests row
      else delivery.secondWriteFault = true → Fits tables.followRequests row
  | some "Undo" => retracts verified = true →
      let key := (verified.record.agentId, verified.signer.id.asStr)
      (delivery.writeFault = true → tables.followRequests.holds key = false) ∧
        (delivery.secondWriteFault = true → tables.followers.holds key = false)
  | _ => True

end

section
variable {delivery : Delivery} {verified : Verified} {tables : Tables}

variable {actor : String}

theorem followAccepted_eq_self {following : Following} :
    following.followAccepted followId target actor = following ↔
      ∀ row ∈ following.table.rows, ¬(row.followActivityId = followId ∧ row.state = .pending ∧
        row.targetActorUrl = target ∧ row.actorId = actor) := by
  rw [Following.table_inj]
  unfold Following.followAccepted
  rw [Table.update_eq_self]
  refine forall₂_congr fun row _ => ?_
  by_cases found : row.followActivityId = followId ∧ row.state = .pending ∧
      row.targetActorUrl = target ∧ row.actorId = actor
  · rw [if_pos found]
    refine iff_of_false ?_ (fun none => none found)
    intro same
    have state := congrArg FollowingRecord.state same
    rw [found.2.1] at state
    cases state
  · rw [if_neg found]
    exact iff_of_true rfl found

theorem followRejected_eq_self {following : Following} :
    following.followRejected followId target = following ↔
      ∀ row ∈ following.table.rows, row.followActivityId = followId →
        row.targetActorUrl ≠ target := by
  refine Following.table_inj.trans (Table.deleteWhere_eq_self.trans ?_)
  simp

theorem faulted_eq_iff {Table : Type} {fault : Bool} {kept changed : Table}
    (h : changed = kept ↔ idle) :
    (if fault then kept else changed) = changed ↔ (fault = true → idle) := by
  cases fault with
  | true => simpa using eq_comm.trans h
  | false => simp

theorem handleAccept_eq_iff :
    handleAccept delivery verified tables = handleAccept delivery.faultless verified tables ↔
      (delivery.writeFault = true → ∀ followId ∈ objectId verified.activity,
        ∀ row ∈ tables.following.table.rows, ¬(row.followActivityId = followId ∧
          row.state = .pending ∧ row.targetActorUrl = verified.signer.id.asStr ∧
          row.actorId = verified.record.agentId)) := by
  unfold handleAccept
  cases objectId verified.activity with
  | none => simp
  | some followId =>
    simp only [Option.mem_some_iff, forall_eq']
    exact faulted_eq_iff (Tables.following_eq_self.trans followAccepted_eq_self)

theorem handleReject_eq_iff :
    handleReject delivery verified tables = handleReject delivery.faultless verified tables ↔
      (delivery.writeFault = true → ∀ followId ∈ objectId verified.activity,
        ∀ row ∈ tables.following.table.rows, row.followActivityId = followId →
          row.targetActorUrl ≠ verified.signer.id.asStr) := by
  unfold handleReject
  cases objectId verified.activity with
  | none => simp
  | some followId =>
    simp only [Option.mem_some_iff, forall_eq']
    exact faulted_eq_iff (Tables.following_eq_self.trans followRejected_eq_self)

theorem handleFollow_eq_iff :
    handleFollow delivery verified tables = handleFollow delivery.faultless verified tables ↔
      ∀ followId ∈ askedFollow verified,
        let row := requestRow delivery verified followId
        if delivery.writeFault then Redundant tables.followRequests row
        else delivery.secondWriteFault = true → Fits tables.followRequests row := by
  rw [handleFollow_eq, handleFollow_eq]
  cases askedFollow verified with
  | none => simp
  | some followId =>
    simp only [Delivery.faultless, Option.mem_some_iff, forall_eq']
    cases delivery.writeFault with
    | true =>
      simp only [if_true, Bool.false_eq_true, if_false]
      refine eq_comm.trans (Tables.followRequests_eq_self.trans ?_)
      exact @evict_upsert_eq_self tables.followRequests (requestRow delivery verified followId)
    | false =>
      cases delivery.secondWriteFault with
      | false => simp
      | true =>
        simp only [Bool.false_eq_true, if_false, true_implies, Tables.mk.injEq, true_and, and_true]
        refine eq_comm.trans ?_
        exact @evictFollowRequests_upsert tables.followRequests
          (requestRow delivery verified followId)

theorem removeFollowRequest_eq_self :
    removeFollowRequest requests actor follower none = requests ↔
      requests.holds (actor, follower) = false := by
  unfold removeFollowRequest
  rw [Table.deleteWhere_eq_self, Table.holds_eq_false]
  simp

theorem removeFollower_eq_self :
    removeFollower followers actor follower = followers ↔
      followers.holds (actor, follower) = false := by
  unfold removeFollower
  rw [Table.deleteWhere_eq_self, Table.holds_eq_false]
  simp

theorem handleUndo_eq_iff :
    handleUndo delivery verified tables = handleUndo delivery.faultless verified tables ↔
      (retracts verified = true →
        let key := (verified.record.agentId, verified.signer.id.asStr)
        (delivery.writeFault = true → tables.followRequests.holds key = false) ∧
          (delivery.secondWriteFault = true → tables.followers.holds key = false)) := by
  rw [handleUndo_eq, handleUndo_eq]
  cases retracts verified with
  | false => simp
  | true =>
    simp only [Delivery.faultless, Bool.false_eq_true, if_false, if_true, true_implies,
      Tables.mk.injEq, true_and, and_true]
    rw [faulted_eq_iff removeFollowRequest_eq_self, faulted_eq_iff removeFollower_eq_self]
    exact and_comm

theorem handleCreate_eq_of_success
    (success : (handleCreate config delivery verified tables).1.isSuccess = true) :
    (handleCreate config delivery verified tables).2 =
      (handleCreate config delivery.faultless verified tables).2 := by
  unfold handleCreate at success ⊢
  have composed : composeMessage config delivery.faultless verified =
      composeMessage config delivery verified := rfl
  rw [composed]
  cases offers : composeMessage config delivery verified with
  | none => rfl
  | some message =>
    rw [offers] at success
    cases fault : delivery.writeFault with
    | true =>
      rw [fault] at success
      cases success
    | false => rfl

end

def followActivity : Value :=
  .object [("type", .string "Follow"), ("actor", .string "s"), ("id", .string "f"),
    ("object", .string "u")]

def undoActivity : Value :=
  .object [("type", .string "Undo"), ("actor", .string "s"), ("object", followActivity)]

def retractConfig : InboundConfig :=
  { inboundConfig with
    parseJson := fun body =>
      match body with
      | [1] => some followActivity
      | [2] => some undoActivity
      | _ => none }

def sendingActor : RemoteActor :=
  ⟨⟨"s", "https", some "s", none, "/"⟩, ⟨"s", "https", some "s", none, "/"⟩, some "k"⟩

def followVerified : Verified := ⟨⟨"a", "h", "u", .null, 0⟩, sendingActor, followActivity⟩

theorem verifyDelivery_follow (fault : Bool) :
    verifyDelivery retractConfig inboundStore
      { inboundDelivery "s" 1 with writeFault := fault } = .ok followVerified := by
  have owner : keyIdOwner (presentedKeyId (inboundDelivery "s" 1).headers) = "s" := by
    decide +kernel
  have signed : ∀ fault, verifyInboundSignature retractConfig
      { inboundDelivery "s" 1 with writeFault := fault } "k" = .ok () := by
    decide +kernel
  refine verifyDelivery_eq_ok.mpr ⟨sendingActor.id, sendingActor.id, "k", ?_⟩
  exact {
    small := Nat.le_of_ble_eq_true rfl
    found := rfl
    works := rfl
    decoded := rfl
    names := ⟨"s", rfl, rfl⟩
    keyed := congrArg retractConfig.bridge.parsers.parseUrl owner
    fetched := rfl
    carries := rfl
    signed := signed fault
    welcome := rfl
    authored := rfl }

theorem postInbox_follow (fault : Bool) :
    postInbox retractConfig inboundStore .empty { inboundDelivery "s" 1 with writeFault := fault } =
      dispatch retractConfig { inboundDelivery "s" 1 with writeFault := fault } followVerified
        .empty := by
  unfold postInbox
  rw [verifyDelivery_follow]

end Fetchit.Bridge
