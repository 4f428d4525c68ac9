import Fetchit.Bridge.Tables
import Fetchit.Lib.Run
import Fetchit.Lib.Text

/-! Following a remote account. The device names the Follow after the time of the call, posts it
to the target's inbox, and then records it at the bridge, which keeps the first id it was given
for as long as the row stands. An Accept is matched to the row by the id it answers. -/
namespace Fetchit.Chat.FollowFedi
open Fetchit.Bridge Lib Lib.Run

structure Follow where
  actorId : String
  actorUrl : String
  targetActorUrl : String
  targetInboxUrl : String
  deriving DecidableEq

/-- Whether the Follow reached the inbox, and whether the bridge took the record. -/
structure FollowCall where
  nowMs : Nat
  delivered : Bool
  recorded : Bool
  deriving DecidableEq

structure State where
  following : Following
  inbox : List String

inductive Event where
  | call (call : FollowCall)
  | accept (followActivityId : String)
  deriving DecidableEq

def followId (actorUrl : String) (unique : Nat) : String := s!"{actorUrl}/follows/{unique}"

theorem followId_inj :
    followId actorUrl first = followId actorUrl second ↔ first = second := by
  simp only [followId, Nat.toString_eq_repr, String.append_right_inj, Text.repr_inj]

section
variable (follow : Follow)

def recordFollowAtBridge (following : Following) (nowMs : Nat) :
    Option FollowOutcome × Following :=
  following.followRequest follow.actorId follow.targetActorUrl follow.targetInboxUrl
    (followId follow.actorUrl nowMs) nowMs

def followFedi (state : State) (call : FollowCall) : State where
  inbox := if call.delivered then state.inbox ++ [followId follow.actorUrl call.nowMs]
    else state.inbox
  following := if call.recorded then (recordFollowAtBridge follow state.following call.nowMs).2
    else state.following

def step (state : State) : Event → State
  | .call call => followFedi follow state call
  | .accept followActivityId =>
    { state with
      following := state.following.followAccepted followActivityId follow.targetActorUrl
        follow.actorId }

def row (state : State) : Option FollowingRecord :=
  state.following.table.find? (follow.actorId, follow.targetActorUrl)

def storedId (state : State) : Option String := (row follow state).map (·.followActivityId)

variable {follow}

theorem storedId_created {first : FollowCall}
    (created : (recordFollowAtBridge follow following first.nowMs).1 = some .created) :
    storedId follow ⟨(recordFollowAtBridge follow following first.nowMs).2, inbox⟩ =
      some (followId follow.actorUrl first.nowMs) := by
  unfold recordFollowAtBridge Following.followRequest at *
  split at created
  · split at created <;> cases created
  · split at created
    · rename_i inserted
      have found := Table.find?_eq_some.mpr ⟨(Following.rows_insert inserted) ▸
        List.mem_append_right _ (List.mem_singleton_self _), rfl⟩
      exact congrArg (Option.map _) found
    · cases created

theorem storedId_step {id : String} (event : Event) (stored : storedId follow state = some id) :
    storedId follow (step follow state event) = some id := by
  obtain ⟨record, found, rfl⟩ := Option.map_eq_some_iff.mp stored
  cases event with
  | call call =>
    have same : (recordFollowAtBridge follow state.following call.nowMs).2 = state.following :=
      Following.followRequest_eq_self.mpr (.inl (Table.holds_of_find? found))
    simp only [step, followFedi, same, ite_self]
    exact congrArg _ found
  | accept followActivityId =>
    simp only [storedId, row, step, Following.followAccepted, Table.find?_update] at found ⊢
    rw [found, Option.map_some]
    split <;> rfl

theorem storedId_run {id : String} (events : List Event)
    (stored : storedId follow state = some id) :
    storedId follow (run (step follow) state events) = some id :=
  run_keeps (storedId follow · = some id) (fun _ event stored => storedId_step event stored) events
    stored

theorem mem_inbox_run {id : String} :
    id ∈ (run (step follow) state events).inbox ↔
      id ∈ state.inbox ∨ ∃ call, .call call ∈ events ∧ call.delivered = true ∧
        id = followId follow.actorUrl call.nowMs := by
  induction events generalizing state with
  | nil => simp
  | cons event events ih =>
    rw [run_cons, ih]
    cases event with
    | accept => simp [step]
    | call call =>
      cases sent : call.delivered <;> simp [step, followFedi, sent, or_assoc]

theorem accepted_of_storedId {id : String} (stored : storedId follow state = some id) :
    (row follow (step follow state (.accept id))).map (·.state) = some .accepted := by
  obtain ⟨record, found, rfl⟩ := Option.map_eq_some_iff.mp stored
  obtain ⟨-, key⟩ := Table.find?_eq_some.mp found
  obtain ⟨actor, target⟩ := Prod.ext_iff.mp key
  simp only [row, step, Following.followAccepted, Table.find?_update] at found ⊢
  rw [found, Option.map_some, Option.map_some]
  cases held : record.state with
  | pending => rw [if_pos ⟨rfl, rfl, target, actor⟩]
  | accepted => simp [held]

def Matched (follow : Follow) (state : State) : Prop :=
  ∀ id ∈ state.inbox, storedId follow state = some id ∧
    (row follow (step follow state (.accept id))).map (·.state) = some .accepted

/-- From the call that creates the row on, the ids agree exactly when every later call that
reaches the inbox is made in the millisecond of that call. -/
theorem follows_matched_iff {following : Following} {first : FollowCall} {later : List Event}
    (recorded : first.recorded = true)
    (created : (recordFollowAtBridge follow following first.nowMs).1 = some .created) :
    Matched follow (run (step follow) ⟨following, []⟩ (.call first :: later)) ↔
      ∀ call, .call call ∈ later → call.delivered = true → call.nowMs = first.nowMs := by
  have stored : storedId follow (run (step follow) ⟨following, []⟩ (.call first :: later)) =
      some (followId follow.actorUrl first.nowMs) := by
    rw [run_cons]
    apply storedId_run
    simp only [step, followFedi, recorded]
    exact storedId_created created
  constructor
  · intro matched call mem sent
    have same := (matched _ (mem_inbox_run.mpr
      (.inr ⟨call, List.mem_cons_of_mem _ mem, sent, rfl⟩))).1
    rw [stored, Option.some_inj, followId_inj] at same
    exact same.symm
  · intro together id mem
    have same : id = followId follow.actorUrl first.nowMs := by
      obtain held | ⟨call, listed, sent, rfl⟩ := mem_inbox_run.mp mem
      · cases held
      · rw [followId_inj]
        obtain same | mem := List.mem_cons.mp listed
        · rw [Event.call.inj same]
        · exact together call mem sent
    rw [same]
    exact ⟨stored, accepted_of_storedId stored⟩

end

def aliceFollow : Follow where
  actorId := "alice"
  actorUrl := "https://bridge/actors/alice"
  targetActorUrl := "https://remote/users/bob"
  targetInboxUrl := "https://remote/users/bob/inbox"

/-- Two taps in one millisecond, an Accept, and a later call that does not reach the inbox. -/
theorem repeated_follow_matched :
    Matched aliceFollow (run (step aliceFollow) ⟨⟨.empty, List.nodup_nil⟩, []⟩
      [.call ⟨1, true, true⟩, .call ⟨1, true, true⟩, .accept (followId aliceFollow.actorUrl 1),
        .call ⟨2, false, true⟩]) :=
  (follows_matched_iff rfl rfl).mpr (by simp)

/-- A second tap a millisecond later delivers another id, whose Accept leaves the row pending. -/
theorem second_follow_unmatched :
    let state := run (step aliceFollow) ⟨⟨.empty, List.nodup_nil⟩, []⟩
      [.call ⟨1, true, true⟩, .call ⟨2, true, true⟩]
    state.inbox = [followId aliceFollow.actorUrl 1, followId aliceFollow.actorUrl 2] ∧
      storedId aliceFollow state = some (followId aliceFollow.actorUrl 1) ∧
      (row aliceFollow (step aliceFollow state
        (.accept (followId aliceFollow.actorUrl 2)))).map (·.state) = some .pending := by
  decide

end Fetchit.Chat.FollowFedi
