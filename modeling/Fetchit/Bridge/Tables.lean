import Mathlib.Algebra.Group.Int.Defs
import Mathlib.Data.List.Sort
import Fetchit.Lib.Table
import Fetchit.Lib.Outcome

/-! The bridge's message inbox and follow graph: four tables, their keys, and the statements that
run on them. -/
namespace Fetchit.Bridge
open Lib

structure InboxMessage where
  actorId : String
  senderActorUrl : String
  noteId : String
  text : String
  published : String
  createdMs : Int
  deriving DecidableEq

inductive FollowState where
  | pending
  | accepted
  deriving DecidableEq

structure FollowingRecord where
  actorId : String
  targetActorUrl : String
  targetInboxUrl : String
  state : FollowState
  followActivityId : String
  createdMs : Int
  deriving DecidableEq

structure FollowerRecord where
  actorId : String
  followerActorUrl : String
  sharedInboxUrl : String
  sinceMs : Int
  deriving DecidableEq

structure FollowRequestRecord where
  actorId : String
  followerActorUrl : String
  followerInboxUrl : String
  followActivityId : String
  receivedMs : Int
  deriving DecidableEq

def InboxMessage.key (row : InboxMessage) : String × String := (row.actorId, row.noteId)

def FollowingRecord.key (row : FollowingRecord) : String × String :=
  (row.actorId, row.targetActorUrl)

def FollowerRecord.key (row : FollowerRecord) : String × String :=
  (row.actorId, row.followerActorUrl)

def FollowRequestRecord.key (row : FollowRequestRecord) : String × String :=
  (row.actorId, row.followerActorUrl)

/-- The activity ids of the follows are unique too. -/
structure Following where
  table : Table FollowingRecord.key
  ids : (table.rows.map FollowingRecord.followActivityId).Nodup

theorem Following.ext_rows {first second : Following}
    (h : first.table.rows = second.table.rows) : first = second := by
  have same := Table.ext_rows h
  cases first
  cases same
  rfl

theorem Following.table_inj {first second : Following} :
    first = second ↔ first.table = second.table :=
  ⟨congrArg Following.table, fun same => Following.ext_rows (congrArg Table.rows same)⟩

instance : DecidableEq Following := fun first second =>
  decidable_of_iff (first.table.rows = second.table.rows)
    ⟨Following.ext_rows, fun h => h ▸ rfl⟩

structure Tables where
  following : Following
  followers : Table FollowerRecord.key
  followRequests : Table FollowRequestRecord.key
  inboxMessages : Table InboxMessage.key
  deriving DecidableEq

def Tables.empty : Tables := ⟨⟨.empty, List.nodup_nil⟩, .empty, .empty, .empty⟩

variable {tables : Tables} {following : Following} {targetActorUrl : String} {nowMs : Nat}

theorem Tables.following_eq_self :
    { tables with following := following } = tables ↔ following = tables.following :=
  ⟨congrArg Tables.following, fun same => by rw [same]⟩

theorem Tables.followRequests_eq_self {followRequests : Table FollowRequestRecord.key} :
    { tables with followRequests := followRequests } = tables ↔
      followRequests = tables.followRequests :=
  ⟨congrArg Tables.followRequests, fun same => by rw [same]⟩

theorem Tables.followers_eq_self {followers : Table FollowerRecord.key}
    {followRequests : Table FollowRequestRecord.key} :
    { tables with followers := followers, followRequests := followRequests } = tables ↔
      followers = tables.followers ∧ followRequests = tables.followRequests :=
  ⟨fun same => ⟨congrArg Tables.followers same, congrArg Tables.followRequests same⟩,
    fun same => by rw [same.1, same.2]⟩

def storedMs (ms : Nat) : Int := min (ms : Int) (2 ^ 63 - 1)

def inboxList (table : Table InboxMessage.key) (actorId : String) (sinceMs : Int) (limit : Nat) :
    List InboxMessage :=
  ((table.rows.filter fun row => row.actorId = actorId && sinceMs < row.createdMs).insertionSort
    fun first second => first.createdMs ≤ second.createdMs).take limit

section
variable {table : Table InboxMessage.key} {actorId : String} {sinceMs : Int} {limit : Nat}
  {row : InboxMessage}

theorem mem_inboxList (h : row ∈ inboxList table actorId sinceMs limit) :
    row ∈ table.rows ∧ row.actorId = actorId ∧ sinceMs < row.createdMs := by
  have listed := (List.mem_insertionSort _).mp (List.mem_of_mem_take h)
  simpa using listed

theorem le_of_notMem_inboxList (mem : row ∈ table.rows) (owned : row.actorId = actorId)
    (newer : sinceMs < row.createdMs) (left : row ∉ inboxList table actorId sinceMs limit)
    (h : served ∈ inboxList table actorId sinceMs limit) :
    served.createdMs ≤ row.createdMs := by
  unfold inboxList at left h
  generalize sorted : (table.rows.filter fun row =>
    row.actorId = actorId && sinceMs < row.createdMs).insertionSort
      (fun first second => first.createdMs ≤ second.createdMs) = rows at left h
  have listed : row ∈ rows := by
    rw [← sorted]
    simp [mem, owned, newer]
  have ordered : rows.Pairwise fun first second => first.createdMs ≤ second.createdMs := by
    rw [← sorted]
    exact List.pairwise_insertionSort _ _
  rw [← List.take_append_drop limit rows, List.pairwise_append] at ordered
  rw [← List.take_append_drop limit rows, List.mem_append] at listed
  exact ordered.2.2 served h row (listed.resolve_left left)

theorem inboxList_eq_nil (positive : 0 < limit) :
    inboxList table actorId sinceMs limit = [] ↔
      ∀ row ∈ table.rows, row.actorId = actorId → row.createdMs ≤ sinceMs := by
  unfold inboxList
  rw [List.take_eq_nil_iff, or_iff_right positive.ne', ← List.length_eq_zero_iff]
  simp

end

def Following.holdsId (following : Following) (followActivityId : String) : Bool :=
  following.table.rows.any fun row => row.followActivityId = followActivityId

def Following.insert (following : Following) (row : FollowingRecord) : Option Following :=
  if free : following.table.holds row.key = false ∧
      following.holdsId row.followActivityId = false then
    some {
      table := following.table.append row free.1
      ids := by
        have absent := free.2
        simp only [Following.holdsId, List.any_eq_false, decide_eq_true_eq] at absent
        unfold Table.append
        rw [List.map_append, List.nodup_append]
        refine ⟨following.ids, List.nodup_singleton _, ?_⟩
        intro first mem second mem'
        obtain ⟨other, there, rfl⟩ := List.mem_map.mp mem
        rw [List.mem_singleton.mp mem']
        exact absent other there }
  else none

theorem Following.insert_eq_none :
    following.insert row = none ↔
      following.table.holds row.key = true ∨ following.holdsId row.followActivityId = true := by
  unfold Following.insert
  split
  · rename_i free
    simp [free.1, free.2]
  · rename_i taken
    rw [not_and_or, Bool.not_eq_false, Bool.not_eq_false] at taken
    exact ⟨fun _ => taken, fun _ => rfl⟩

theorem Following.rows_insert (h : following.insert row = some following') :
    following'.table.rows = following.table.rows ++ [row] := by
  unfold Following.insert at h
  split at h
  · cases h
    rfl
  · cases h

def Following.deleteWhere (following : Following) (chosen : FollowingRecord → Bool) :
    Following where
  table := following.table.deleteWhere chosen
  ids := following.ids.sublist (List.filter_sublist.map _)

inductive FollowOutcome where
  | created
  | alreadyPending
  | alreadyAccepted
  deriving DecidableEq

def Following.followRequest (following : Following)
    (actorId targetActorUrl targetInboxUrl followActivityId : String) (nowMs : Nat) :
    Option FollowOutcome × Following :=
  match following.table.find? (actorId, targetActorUrl) with
  | some row =>
    match row.state with
    | .accepted => (some .alreadyAccepted, following)
    | .pending => (some .alreadyPending, following)
  | none =>
    match following.insert ⟨actorId, targetActorUrl, targetInboxUrl, .pending, followActivityId,
      storedMs nowMs⟩ with
    | some following' => (some .created, following')
    | none => (none, following)

theorem Following.followRequest_eq_self :
    (following.followRequest actorId targetActorUrl targetInboxUrl followActivityId nowMs).2 =
        following ↔
      following.table.holds (actorId, targetActorUrl) = true ∨
        following.holdsId followActivityId = true := by
  unfold Following.followRequest
  cases found : following.table.find? (actorId, targetActorUrl) with
  | some row =>
    refine iff_of_true ?_ (.inl (Table.holds_of_find? found))
    dsimp only
    split <;> rfl
  | none =>
    cases inserted : following.insert ⟨actorId, targetActorUrl, targetInboxUrl, .pending,
        followActivityId, storedMs nowMs⟩ with
    | none => exact iff_of_true rfl (Following.insert_eq_none.mp inserted)
    | some following' =>
      refine iff_of_false ?_ ?_
      · intro same
        have longer := congrArg List.length (Following.rows_insert inserted)
        rw [show following' = following from same] at longer
        simp at longer
      · intro taken
        cases inserted.symm.trans (Following.insert_eq_none.mpr taken)

theorem Following.holds_insert
    (h : following.insert row = some following') : following'.table.holds row.key = true := by
  rw [Table.holds_eq_true]
  refine ⟨row, ?_, rfl⟩
  rw [Following.rows_insert h]
  exact List.mem_append_right _ (List.mem_singleton_self row)

theorem Following.followRequest_taken :
    let following' :=
      (following.followRequest actorId targetActorUrl targetInboxUrl followActivityId nowMs).2
    following'.table.holds (actorId, targetActorUrl) = true ∨
      following'.holdsId followActivityId = true := by
  intro following'
  by_cases same : following' = following
  · rw [same]
    exact Following.followRequest_eq_self.mp same
  · left
    unfold following' Following.followRequest at same ⊢
    split at same
    · split at same <;> exact absurd rfl same
    · split at same
      · rename_i inserted
        exact Following.holds_insert inserted
      · exact absurd rfl same

def Following.followAccepted (following : Following)
    (followActivityId expectedTarget expectedActor : String) : Following where
  table := following.table.update
    (fun row => if row.followActivityId = followActivityId ∧ row.state = .pending ∧
        row.targetActorUrl = expectedTarget ∧ row.actorId = expectedActor then
      { row with state := .accepted } else row)
    (by
      intro row
      split <;> rfl)
  ids := by
    unfold Table.update
    rw [List.map_map]
    have same : (FollowingRecord.followActivityId ∘ fun row : FollowingRecord =>
        if row.followActivityId = followActivityId ∧ row.state = .pending ∧
          row.targetActorUrl = expectedTarget ∧ row.actorId = expectedActor then
            { row with state := .accepted } else row) = FollowingRecord.followActivityId := by
      funext row
      simp only [Function.comp]
      split <;> rfl
    rw [same]
    exact following.ids

def Following.followRejected (following : Following) (followActivityId expectedTarget : String) :
    Following :=
  following.deleteWhere fun row =>
    row.followActivityId = followActivityId && row.targetActorUrl = expectedTarget

def Following.unfollow (following : Following) (actorId targetActorUrl : String) :
    Option FollowingRecord × Following :=
  match following.table.find? (actorId, targetActorUrl) with
  | some row =>
    (some row, following.deleteWhere fun row => row.key = (actorId, targetActorUrl))
  | none => (none, following)

theorem Following.unfollow_eq_self :
    (following.unfollow actorId targetActorUrl).2 = following ↔
      following.table.holds (actorId, targetActorUrl) = false := by
  unfold Following.unfollow
  cases found : following.table.find? (actorId, targetActorUrl) with
  | none => exact iff_of_true rfl (Table.find?_eq_none.mp found)
  | some row =>
    refine iff_of_false ?_ ?_
    · intro same
      have none := Table.deleteWhere_eq_self.mp (congrArg Following.table same)
      obtain ⟨row, mem, key⟩ := Table.holds_eq_true.mp (Table.holds_of_find? found)
      have kept := none row mem
      rw [key] at kept
      simp at kept
    · rw [Table.holds_of_find? found]
      exact Bool.noConfusion

theorem Following.unfollow_gone :
    (following.unfollow actorId targetActorUrl).2.table.holds (actorId, targetActorUrl) =
      false := by
  unfold Following.unfollow
  split
  · rw [Table.holds_eq_false]
    intro row mem same
    have kept := (List.mem_filter.mp mem).2
    simp [same] at kept
  · rename_i absent
    exact Table.find?_eq_none.mp absent

def addFollower (followers : Table FollowerRecord.key)
    (actorId followerActorUrl followerInboxUrl : String) (nowMs : Nat) :
    Bool × Table FollowerRecord.key :=
  followers.insertOrIgnore ⟨actorId, followerActorUrl, followerInboxUrl, storedMs nowMs⟩

def removeFollower (followers : Table FollowerRecord.key) (actorId followerActorUrl : String) :
    Table FollowerRecord.key :=
  followers.deleteWhere fun row => row.key = (actorId, followerActorUrl)

def maxQueuedFollowRequests : Nat := 200

def newestRequests (requests : Table FollowRequestRecord.key) (actorId : String) :
    List FollowRequestRecord :=
  ((requests.rows.filter fun row => row.actorId = actorId).insertionSort
    fun first second => second.receivedMs ≤ first.receivedMs).take maxQueuedFollowRequests

def evictFollowRequests (requests : Table FollowRequestRecord.key) (actorId : String) :
    Table FollowRequestRecord.key :=
  let kept := (newestRequests requests actorId).map FollowRequestRecord.followerActorUrl
  requests.deleteWhere fun row => row.actorId = actorId && !kept.contains row.followerActorUrl

section
variable {requests : Table FollowRequestRecord.key} {actorId : String} {row : FollowRequestRecord}

theorem mem_of_mem_newestRequests (mem : row ∈ newestRequests requests actorId) :
    row ∈ requests.rows ∧ row.actorId = actorId := by
  have listed := List.mem_of_mem_take mem
  simpa using listed

theorem nodup_newestRequests : (newestRequests requests actorId).Nodup := by
  refine List.Nodup.sublist (List.take_sublist _ _) ((List.perm_insertionSort _ _).nodup_iff.mpr ?_)
  exact (List.Nodup.of_map _ requests.unique).filter _

theorem mem_evictFollowRequests :
    row ∈ (evictFollowRequests requests actorId).rows ↔
      row ∈ requests.rows ∧ (row.actorId = actorId → row ∈ newestRequests requests actorId) := by
  have named : row ∈ requests.rows → row.actorId = actorId →
      ((∃ kept ∈ newestRequests requests actorId,
        kept.followerActorUrl = row.followerActorUrl) ↔ row ∈ newestRequests requests actorId) := by
    intro mem own
    refine ⟨?_, fun kept => ⟨row, kept, rfl⟩⟩
    rintro ⟨kept, there, same⟩
    obtain ⟨listed, owned⟩ := mem_of_mem_newestRequests there
    rwa [← requests.eq_of_key_eq listed mem (by simp [FollowRequestRecord.key, owned, own, same])]
  simp only [evictFollowRequests, Table.deleteWhere, List.mem_filter]
  refine and_congr_right fun mem => ?_
  by_cases own : row.actorId = actorId
  · simp [own, named mem own]
  · simp [own]

theorem full_of_notMem_newestRequests (mem : row ∈ requests.rows) (own : row.actorId = actorId)
    (gone : row ∉ newestRequests requests actorId) :
    (newestRequests requests actorId).length = maxQueuedFollowRequests ∧
      ∀ kept ∈ newestRequests requests actorId, row.receivedMs ≤ kept.receivedMs := by
  unfold newestRequests at gone ⊢
  generalize sorted : (requests.rows.filter fun row => row.actorId = actorId).insertionSort
    (fun first second => second.receivedMs ≤ first.receivedMs) = queue at gone ⊢
  have listed : row ∈ queue := by
    rw [← sorted]
    simp [mem, own]
  have ordered : queue.Pairwise fun first second => second.receivedMs ≤ first.receivedMs := by
    rw [← sorted]
    exact List.pairwise_insertionSort _ _
  have parts := List.take_append_drop maxQueuedFollowRequests queue
  rw [← parts, List.mem_append] at listed
  have late := listed.resolve_left gone
  refine ⟨?_, fun kept there => ?_⟩
  · rw [List.length_take]
    by_contra short
    rw [List.drop_eq_nil_of_le (by omega)] at late
    cases late
  · rw [← parts, List.pairwise_append] at ordered
    exact ordered.2.2 kept there row late

theorem full_of_evicted (mem : row ∈ requests.rows)
    (gone : row ∉ (evictFollowRequests requests actorId).rows) :
    row.actorId = actorId ∧ maxQueuedFollowRequests ≤
      ((evictFollowRequests requests actorId).rows.filter fun row => row.actorId = actorId).length := by
  rw [mem_evictFollowRequests, not_and, Classical.not_imp] at gone
  obtain ⟨own, unkept⟩ := gone mem
  refine ⟨own, ?_⟩
  rw [← (full_of_notMem_newestRequests mem own unkept).1]
  refine (List.subperm_of_subset nodup_newestRequests ?_).length_le
  intro kept there
  obtain ⟨listed, owned⟩ := mem_of_mem_newestRequests there
  simp [mem_evictFollowRequests, listed, owned, there]

theorem length_evictFollowRequests_le :
    ((evictFollowRequests requests actorId).view fun row => row.actorId = actorId).length ≤
      maxQueuedFollowRequests := by
  have kept : (evictFollowRequests requests actorId).view (fun row => row.actorId = actorId) ⊆
      newestRequests requests actorId := by
    intro row mem
    obtain ⟨mem, own⟩ := List.mem_filter.mp mem
    exact (mem_evictFollowRequests.mp mem).2 (of_decide_eq_true own)
  have distinct := (List.Nodup.of_map _ (evictFollowRequests requests actorId).unique).filter
    fun row => row.actorId = actorId
  exact (List.subperm_of_subset distinct kept).length_le.trans (List.length_take_le _ _)

theorem evictFollowRequests_eq_self :
    evictFollowRequests requests actorId = requests ↔
      (requests.view fun row => row.actorId = actorId).length ≤ maxQueuedFollowRequests := by
  constructor
  · intro same
    rw [← same]
    exact length_evictFollowRequests_le
  · intro few
    have newest : newestRequests requests actorId = (requests.view fun row =>
        row.actorId = actorId).insertionSort fun first second =>
          second.receivedMs ≤ first.receivedMs :=
      List.take_of_length_le (by rw [List.length_insertionSort]; exact few)
    refine Table.deleteWhere_eq_self.mpr fun row mem => ?_
    by_cases own : row.actorId = actorId
    · have kept : row ∈ newestRequests requests actorId := by
        rw [newest, List.mem_insertionSort]
        exact List.mem_filter.mpr ⟨mem, by simp [own]⟩
      simpa [own] using ⟨row, kept, rfl⟩
    · simp [own]

theorem orderedInsert_concat {α : Type} {r : α → α → Prop} [DecidableRel r] {other last : α}
    (before : r other last) (sorted : List α) :
    (sorted ++ [last]).orderedInsert r other = sorted.orderedInsert r other ++ [last] := by
  induction sorted with
  | nil => simp [before]
  | cons head sorted ih => by_cases first : r other head <;> simp [first, ih]

/-- The sort is stable: what comes last and is no greater stays last. -/
theorem insertionSort_concat {α : Type} {r : α → α → Prop} [DecidableRel r] {queue : List α}
    {last : α} (before : ∀ other ∈ queue, r other last) :
    (queue ++ [last]).insertionSort r = queue.insertionSort r ++ [last] := by
  induction queue with
  | nil => rfl
  | cons head queue ih =>
    rw [List.cons_append, List.insertionSort_cons, List.insertionSort_cons,
      ih fun other mem => before other (List.mem_cons_of_mem _ mem),
      orderedInsert_concat (before head List.mem_cons_self)]

/-- The request is queued as it is, or it is older than a full queue. -/
def Redundant (requests : Table FollowRequestRecord.key) (row : FollowRequestRecord) : Prop :=
  let own := requests.view fun other => other.actorId = row.actorId
  row ∈ requests.rows ∧ own.length ≤ maxQueuedFollowRequests ∨
    requests.holds row.key = false ∧ own.length = maxQueuedFollowRequests ∧
      ∀ other ∈ own, row.receivedMs ≤ other.receivedMs

theorem redundant_of_evicted
    (same : evictFollowRequests (requests.upsert row) row.actorId = requests) :
    Redundant requests row := by
  have queued : row ∈ (requests.upsert row).rows := Table.mem_upsert.mpr (.inl rfl)
  by_cases listed : row ∈ requests.rows
  · rw [Table.upsert_eq_self.mpr listed, evictFollowRequests_eq_self] at same
    exact .inl ⟨listed, same⟩
  · have evicted : row ∉ (evictFollowRequests (requests.upsert row) row.actorId).rows := by
      rw [same]
      exact listed
    have unkept : row ∉ newestRequests (requests.upsert row) row.actorId := fun kept =>
      evicted (mem_evictFollowRequests.mpr ⟨queued, fun _ => kept⟩)
    have full := (full_of_evicted queued evicted).2
    have few := @length_evictFollowRequests_le (requests.upsert row) row.actorId
    rw [same] at full few
    refine .inr ⟨?_, few.antisymm full, ?_⟩
    · refine Table.holds_eq_false.mpr fun other mem key => ?_
      rw [← same] at mem
      rcases Table.mem_upsert.mp (mem_evictFollowRequests.mp mem).1 with rfl | ⟨_, apart⟩
      · exact evicted mem
      · exact apart key
    · intro other mem
      obtain ⟨mem, own⟩ := List.mem_filter.mp mem
      rw [← same, mem_evictFollowRequests] at mem
      exact (full_of_notMem_newestRequests queued rfl unkept).2 other
        (mem.2 (of_decide_eq_true own))

theorem evict_upsert_eq_self :
    evictFollowRequests (requests.upsert row) row.actorId = requests ↔ Redundant requests row := by
  refine ⟨redundant_of_evicted, ?_⟩
  rintro (⟨listed, few⟩ | ⟨absent, full, oldest⟩)
  · rw [Table.upsert_eq_self.mpr listed]
    exact evictFollowRequests_eq_self.mpr few
  · have rows := Table.rows_upsert_of_absent absent
    have kept : ∀ other, other ∈ newestRequests (requests.upsert row) row.actorId ↔
        other ∈ requests.rows ∧ other.actorId = row.actorId := by
      unfold Table.view at full oldest
      unfold newestRequests
      rw [rows, List.filter_append, List.filter_cons_of_pos (by simp), List.filter_nil,
        insertionSort_concat oldest, List.take_left' ((List.length_insertionSort _ _).trans full)]
      simp
    have stays : ∀ other ∈ requests.rows,
        other ∈ (evictFollowRequests (requests.upsert row) row.actorId).rows := by
      intro other mem
      refine mem_evictFollowRequests.mpr ⟨?_, fun own => (kept other).mpr ⟨mem, own⟩⟩
      rw [rows]
      exact List.mem_append_left _ mem
    have dropped : row ∉ (evictFollowRequests (requests.upsert row) row.actorId).rows := by
      intro mem
      have listed := (kept row).mp ((mem_evictFollowRequests.mp mem).2 rfl)
      exact Table.holds_eq_false.mp absent row listed.1 rfl
    apply Table.ext_rows
    simp only [evictFollowRequests, Table.deleteWhere, rows] at stays dropped ⊢
    rw [List.filter_append]
    refine (congrArg₂ (· ++ ·) (List.filter_eq_self.mpr fun other mem =>
      (List.mem_filter.mp (stays other mem)).2) ?_).trans (List.append_nil _)
    refine List.filter_eq_nil_iff.mpr fun other mem kept => dropped ?_
    rw [List.mem_singleton.mp mem] at kept
    exact List.mem_filter.mpr ⟨by simp, kept⟩

/-- With the request the queue is not above its bound. -/
def Fits (requests : Table FollowRequestRecord.key) (row : FollowRequestRecord) : Prop :=
  (requests.view fun other => other.actorId = row.actorId).length +
    (if requests.holds row.key then 0 else 1) ≤ maxQueuedFollowRequests

theorem length_view_upsert :
    ((requests.upsert row).view fun other => other.actorId = row.actorId).length =
      (requests.view fun other => other.actorId = row.actorId).length +
        if requests.holds row.key then 0 else 1 := by
  cases there : requests.holds row.key with
  | false => simp [Table.view, Table.rows_upsert_of_absent there]
  | true =>
    unfold Table.upsert Table.view
    rw [Table.insertOrIgnore_of_holds (Table.holds_update.trans there)]
    simp only [Table.update, List.filter_map, List.length_map]
    refine congrArg List.length (List.filter_congr fun other _ => ?_)
    by_cases same : other.key = row.key
    · have own : other.actorId = row.actorId := congrArg Prod.fst same
      simp [same, own]
    · simp [same]

theorem evictFollowRequests_upsert :
    evictFollowRequests (requests.upsert row) row.actorId = requests.upsert row ↔
      Fits requests row := by
  rw [evictFollowRequests_eq_self, length_view_upsert]
  rfl

end

/-- Two statements without a transaction: the eviction may fail after the request is queued. -/
def addFollowRequest (requests : Table FollowRequestRecord.key)
    (actorId followerActorUrl followerInboxUrl followActivityId : String) (nowMs : Nat)
    (evictionFault : Bool) : Table FollowRequestRecord.key :=
  let queued := requests.upsert
    ⟨actorId, followerActorUrl, followerInboxUrl, followActivityId, storedMs nowMs⟩
  if evictionFault then queued else evictFollowRequests queued actorId

theorem holds_of_addFollowRequest
    (h : (addFollowRequest requests actorId follower inbox followId nowMs evictionFault).holds
      wanted = true) :
    requests.holds wanted = true ∨ (actorId, follower) = wanted := by
  cases evictionFault with
  | true => exact Table.holds_upsert.mp h
  | false => exact Table.holds_upsert.mp (Table.holds_of_deleteWhere h)

/-- A request is queued, unless as many requests of others as the queue holds are stamped at or
after it. The queue is bounded, holds one request a follower, and is the actor's own. -/
theorem queue_after_addFollowRequest (requests : Table FollowRequestRecord.key)
    (actorId follower inbox followId : String) (nowMs : Nat) :
    let after := addFollowRequest requests actorId follower inbox followId nowMs false
    (after.view fun row => row.actorId = actorId).length ≤ maxQueuedFollowRequests ∧
      (after.rows.map FollowRequestRecord.key).Nodup ∧
      after.view (fun row => row.actorId ≠ actorId) =
        requests.view (fun row => row.actorId ≠ actorId) ∧
      ((requests.view fun row => row.actorId = actorId && row.followerActorUrl != follower &&
          storedMs nowMs ≤ row.receivedMs).length < maxQueuedFollowRequests →
        after.find? (actorId, follower) =
          some ⟨actorId, follower, inbox, followId, storedMs nowMs⟩) := by
  intro after
  refine ⟨?_, after.unique, ?_, fun few => ?_⟩
  · exact length_evictFollowRequests_le
  · refine (Table.view_deleteWhere_of_hidden ?_).trans (Table.view_upsert_of_hidden ?_)
    · simp +contextual
    · intro row same
      have own : row.actorId = actorId := congrArg Prod.fst same
      simp [own]
  · refine Table.find?_eq_some.mpr ⟨mem_evictFollowRequests.mpr
      ⟨Table.mem_upsert.mpr (.inl rfl), fun _ => ?_⟩, rfl⟩
    by_contra unkept
    obtain ⟨full, newer⟩ := full_of_notMem_newestRequests (Table.mem_upsert.mpr (.inl rfl)) rfl unkept
    refine few.not_ge (full ▸ (List.subperm_of_subset nodup_newestRequests ?_).length_le)
    intro row there
    obtain ⟨listed, own⟩ := mem_of_mem_newestRequests there
    rcases Table.mem_upsert.mp listed with rfl | ⟨listed, apart⟩
    · exact absurd there unkept
    · refine List.mem_filter.mpr ⟨listed, ?_⟩
      have other : row.followerActorUrl ≠ follower := fun same => apart (Prod.ext own same)
      simp [own, other, newer row there]

def fullQueue : Table FollowRequestRecord.key where
  rows := (List.range 200).map fun length =>
    ⟨"a", String.ofList (List.replicate length 'b'), "i", "f", 2⟩
  unique := by
    rw [List.map_map]
    refine List.nodup_range.map fun first second same => ?_
    simpa [FollowRequestRecord.key] using congrArg (String.length ∘ Prod.snd) same

/-- A full queue takes a request that is newer than the others. -/
theorem newer_request_queued :
    (addFollowRequest fullQueue "a" "new" "i" "f" 3 false).find? ("a", "new") =
      some ⟨"a", "new", "i", "f", 3⟩ := by
  refine (queue_after_addFollowRequest fullQueue "a" "new" "i" "f" 3).2.2.2 ?_
  decide +kernel

/-- A full queue and a clock that was set back: the request is dropped as it arrives. -/
theorem set_back_request_dropped :
    (addFollowRequest fullQueue "a" "new" "i" "f" 1 false).find? ("a", "new") = none := by
  unfold addFollowRequest evictFollowRequests
  rw [if_neg Bool.false_ne_true, Table.find?_deleteWhere]
  decide +kernel

/-- Without an activity id the request goes whatever its id is. -/
def removeFollowRequest (requests : Table FollowRequestRecord.key)
    (actorId followerActorUrl : String) (followActivityId : Option String) :
    Table FollowRequestRecord.key :=
  requests.deleteWhere fun row => row.key = (actorId, followerActorUrl) &&
    followActivityId.all fun id => row.followActivityId = id

end Fetchit.Bridge
