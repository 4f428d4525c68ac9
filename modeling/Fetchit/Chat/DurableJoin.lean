import Fetchit.Chat.Types
import Fetchit.Lib.Run

/-! Durable group joins. A join spends the invite with one `join_post`, keeps the captured event
in a file per group, and later passes bridge that event again until a probe finds the joiner
keyed. Calls, driver passes and join-result applies run side by side on the same files, and each
is cut where it waits. -/
namespace Fetchit.Chat.DurableJoin
open Lib Lib.Run Function

inductive PendingJoinState where
  | submitted
  | bridged
  | keyedButUnverified
  | failed (reason : String)
  deriving DecidableEq

structure PendingJoin where
  groupId : String
  capturedEventB64 : String
  capturedTopic : String
  inviteHash : String
  ownerAgentId : String
  ownerKemPubkeyB64 : String
  ownerRelayHints : List String
  joinerKemPubkeyB64 : String
  createdAtMs : Nat
  lastAttemptMs : Nat
  attempts : Nat
  state : PendingJoinState
  deriving DecidableEq

namespace PendingJoin

def new (groupId capturedEventB64 capturedTopic inviteHash ownerAgentId ownerKemPubkeyB64 : String)
    (ownerRelayHints : List String) (joinerKemPubkeyB64 : String) (nowMs : Nat) : PendingJoin :=
  ⟨groupId, capturedEventB64, capturedTopic, inviteHash, ownerAgentId, ownerKemPubkeyB64,
    ownerRelayHints, joinerKemPubkeyB64, nowMs, 0, 0, .submitted⟩

def isTerminal (record : PendingJoin) : Bool :=
  match record.state with
  | .failed _ => true
  | _ => false

end PendingJoin

abbrev PendingJoinStore := Map String PendingJoin

namespace PendingJoinStore

def upsert (store : PendingJoinStore) (record : PendingJoin) : PendingJoinStore :=
  store.insert record.groupId record

def list (store : PendingJoinStore) : List PendingJoin := store.entries.map (·.2)

def remove (store : PendingJoinStore) (groupId : String) : PendingJoinStore :=
  store.erase groupId

theorem mem_list {store : PendingJoinStore} {groupId : String}
    (held : store.lookup groupId = some record) : record ∈ store.list :=
  List.mem_map.mpr ⟨⟨groupId, record⟩, AList.mem_lookup_iff.mp held, rfl⟩

end PendingJoinStore

inductive MembershipStatus where
  | absent
  | activeKeyed
  | listedButUnkeyed
  deriving DecidableEq

def backoffMs (attempts : Nat) : Nat :=
  if attempts = 0 then 0 else min (2000 * 2 ^ min attempts 20) (5 * 60 * 1000)

def isDue (record : PendingJoin) (nowMs : Nat) : Bool :=
  decide (nowMs ≥ min (record.lastAttemptMs + backoffMs record.attempts) (2 ^ 64 - 1))

def applyOkRetiresRecord (probeKeyed : Option Bool) : Bool := probeKeyed == some true

inductive FileAction where
  | keep
  | put (record : PendingJoin)
  | remove (groupId : String)
  deriving DecidableEq

def FileAction.apply (store : PendingJoinStore) : FileAction → PendingJoinStore
  | .keep => store
  | .put record => store.upsert record
  | .remove groupId => store.remove groupId

def PendingJoin.attempted (record : PendingJoin) (state : PendingJoinState) (nowMs : Nat) :
    PendingJoin :=
  { record with
    state := state
    lastAttemptMs := nowMs
    attempts := min (record.attempts + 1) (2 ^ 32 - 1) }

/-- `drive_once` after the probe. A probe that fails leaves the record as it is. -/
def driveOnce (record : PendingJoin) (status : Option MembershipStatus) (nowMs : Nat) :
    FileAction :=
  if record.isTerminal then .keep
  else
    match status with
    | some .activeKeyed => .remove record.groupId
    | some .listedButUnkeyed => .put (record.attempted .keyedButUnverified nowMs)
    | some .absent => .put (record.attempted .bridged nowMs)
    | none => .keep

/-- The joiner's own `member_joined` event, as `join_post` returned it. -/
structure CapturedSelfJoin where
  topic : String
  payload : Bytes
  deriving DecidableEq

inductive JoinError where
  | joinerNotConverged (groupId : String) (waitedMs : Nat)
  | other (message : String)
  deriving DecidableEq

def JoinError.display : JoinError → String
  | .joinerNotConverged groupId waitedMs =>
    s!"joiner did not converge into /groups/{groupId}/members within {waitedMs}ms"
  | .other message => message

inductive JoinOutcome where
  | converged (groupId : String)
  | pending (groupId : String)
  deriving DecidableEq

/-- The hash of an invite, the inviter named in a captured event, and the joiner's own key. -/
structure Environment where
  inviteHash : String → String
  inviterAgentIdFromMemberJoined : Bytes → Option String
  kemPublicKey : Bytes

/-- What the resolutions of `build_pending_join` found, and the clock. -/
structure Resolution where
  ownerKem : Except JoinError Bytes
  cardRelays : Option (List String)
  primaryRelayUrl : Option String
  nowMs : Nat

def Resolution.ownerRelayHints (found : Resolution) : List String :=
  ((found.cardRelays <|> found.primaryRelayUrl.map fun url => [url])).getD []

def buildPendingJoin (env : Environment) (groupId inviteHash : String)
    (captured : CapturedSelfJoin) (found : Resolution) : Except JoinError PendingJoin :=
  match env.inviterAgentIdFromMemberJoined captured.payload with
  | none => .error (.other "durable join: captured event has no inviter")
  | some owner =>
    found.ownerKem.map fun ownerKem =>
      .new groupId (Base64.encode captured.payload) captured.topic inviteHash owner
        (Base64.encode ownerKem) found.ownerRelayHints (Base64.encode env.kemPublicKey)
        found.nowMs

theorem buildPendingJoin_isOk
    (inviter : (env.inviterAgentIdFromMemberJoined captured.payload).isSome)
    (key : found.ownerKem.isOk) (groupId inviteHash : String) :
    ∃ record, buildPendingJoin env groupId inviteHash captured found = .ok record := by
  obtain ⟨owner, named⟩ := Option.isSome_iff_exists.mp inviter
  unfold buildPendingJoin
  rw [named]
  cases resolved : found.ownerKem with
  | error error =>
    rw [resolved] at key
    cases key
  | ok ownerKem => exact ⟨_, rfl⟩

/-- A record that was built holds the event and the hash, and is not terminal. -/
structure Built (groupId inviteHash : String) (captured : CapturedSelfJoin)
    (record : PendingJoin) : Prop where
  group : record.groupId = groupId
  hash : record.inviteHash = inviteHash
  event : record.capturedEventB64 = Base64.encode captured.payload
  topic : record.capturedTopic = captured.topic
  live : record.isTerminal = false

theorem buildPendingJoin_ok {groupId inviteHash : String}
    (h : buildPendingJoin env groupId inviteHash captured found = .ok record) :
    Built groupId inviteHash captured record := by
  unfold buildPendingJoin at h
  split at h
  · cases h
  · cases resolved : found.ownerKem with
    | error error =>
      rw [resolved] at h
      cases h
    | ok ownerKem =>
      rw [resolved] at h
      cases h
      exact ⟨rfl, rfl, rfl, rfl, rfl⟩

def inProgress (env : Environment) (store : PendingJoinStore) (invite : String) :
    Option PendingJoin :=
  store.list.find? fun record =>
    !record.isTerminal && record.inviteHash == env.inviteHash invite

def runNativeThenBridge (captured : Bool) (native bridge : Except JoinError Unit) :
    Except JoinError Unit :=
  if captured then bridge
  else
    native.mapError fun error => .other ("group join: native convergence failed (" ++
      error.display ++ ") and the daemon returned no inline member_joined, so the Welcome " ++
      "cannot be bridged")

/-- Where a call of `join_group_durable` waits: for `join_post`, for the owner's key, and for
the native wait and the bridge. -/
inductive Stage where
  | looked (invite : String)
  | posted (invite groupId : String) (captured : CapturedSelfJoin)
  | waiting (groupId : String) (persisted : Bool)
  deriving DecidableEq

def Stage.opening : Stage → Option String
  | .looked invite => some invite
  | .posted invite _ _ => some invite
  | .waiting _ _ => none

/-- A driver pass: the listed records that are left, and the probe's answer for the first. -/
structure Pass where
  queue : List PendingJoin
  answer : Option (Option MembershipStatus)
  deriving DecidableEq

/-- A `join_post` that returned success. -/
structure Spend where
  call : Nat
  invite : String
  groupId : String
  captured : Option CapturedSelfJoin
  deriving DecidableEq

/-- The files, the calls, passes and applies in progress, the successes of `join_post` since
whose return no probe has found the joiner keyed in their group, and the calls' returns. -/
structure System where
  store : PendingJoinStore
  calls : Nat
  stages : Nat → Option Stage
  passes : Nat → Option Pass
  retiring : Nat → Option String
  unconfirmed : List Spend
  returned : List (Nat × Except JoinError JoinOutcome)

namespace System

def start (store : PendingJoinStore) : System :=
  ⟨store, 0, fun _ => none, fun _ => none, fun _ => none, [], []⟩

def setStage (system : System) (call : Nat) (stage : Stage) : System :=
  { system with stages := update system.stages call (some stage) }

def finish (system : System) (call : Nat) (reply : Except JoinError JoinOutcome) : System :=
  { system with
    stages := update system.stages call none
    returned := (call, reply) :: system.returned }

def confirm (system : System) (groupId : String) : System :=
  { system with
    unconfirmed := system.unconfirmed.filter fun spend => spend.groupId ≠ groupId }

def act (system : System) (action : FileAction) : System :=
  { system with store := action.apply system.store }

def call (env : Environment) (system : System) (invite : String) : System :=
  let entered := { system with calls := system.calls + 1 }
  match inProgress env system.store invite with
  | some existing => entered.finish system.calls (.ok (.pending existing.groupId))
  | none => entered.setStage system.calls (.looked invite)

def post (system : System) (call : Nat)
    (answer : Except JoinError (String × Option CapturedSelfJoin)) : System :=
  match system.stages call, answer with
  | some (.looked _), .error error => system.finish call (.error error)
  | some (.looked invite), .ok (groupId, captured) =>
    let stage : Stage :=
      match captured with
      | some event => .posted invite groupId event
      | none => .waiting groupId false
    { system.setStage call stage with
      unconfirmed := ⟨call, invite, groupId, captured⟩ :: system.unconfirmed }
  | _, _ => system

def persist (env : Environment) (system : System) (call : Nat) (found : Resolution)
    (written : Except JoinError Unit) : System :=
  match system.stages call with
  | some (.posted invite groupId captured) =>
    match buildPendingJoin env groupId (env.inviteHash invite) captured found with
    | .error error => system.finish call (.error error)
    | .ok record =>
      match written with
      | .error error => system.finish call (.error error)
      | .ok () => (system.act (.put record)).setStage call (.waiting groupId true)
  | _ => system

def joinResult (groupId : String) (persisted : Bool) (outcome : Except JoinError Unit) :
    FileAction × Except JoinError JoinOutcome :=
  match outcome with
  | .ok () => (.keep, .ok (.converged groupId))
  | .error (.joinerNotConverged _ _) => (.keep, .ok (.pending groupId))
  | .error (.other message) =>
    if persisted then (.keep, .ok (.pending groupId))
    else (.remove groupId, .error (.other message))

def conclude (system : System) (call : Nat) (native bridge : Except JoinError Unit)
    (removed : Bool) : System :=
  match system.stages call with
  | some (.waiting groupId persisted) =>
    let result := joinResult groupId persisted (runNativeThenBridge persisted native bridge)
    (system.act (if removed then result.1 else .keep)).finish call result.2
  | _ => system

def probe (system : System) (pass : Nat) (status : Option MembershipStatus) (nowMs : Nat) :
    System :=
  match system.passes pass with
  | some ⟨record :: rest, none⟩ =>
    if record.isTerminal || !isDue record nowMs then
      { system with passes := update system.passes pass (some ⟨rest, none⟩) }
    else
      let answered := { system with
        passes := update system.passes pass (some ⟨record :: rest, some status⟩) }
      if status = some .activeKeyed then answered.confirm record.groupId else answered
  | _ => system

def drive (system : System) (pass : Nat) (done : Bool) (nowMs : Nat) : System :=
  match system.passes pass with
  | some ⟨record :: rest, some status⟩ =>
    if done then
      { system.act (driveOnce record status nowMs) with
        passes := update system.passes pass (some ⟨rest, none⟩) }
    else { system with passes := update system.passes pass none }
  | _ => system

def applied (system : System) (task : Nat) (groupId : String) (probeKeyed : Option Bool) :
    System :=
  if applyOkRetiresRecord probeKeyed then
    { system.confirm groupId with
      retiring := update system.retiring task (some groupId) }
  else system

def retire (system : System) (task : Nat) (removed : Bool) : System :=
  match system.retiring task with
  | some groupId =>
    { system.act (if removed then .remove groupId else .keep) with
      retiring := update system.retiring task none }
  | none => system

def restart (system : System) : System :=
  { system with stages := fun _ => none, passes := fun _ => none, retiring := fun _ => none }

inductive Event where
  | call (invite : String)
  | post (call : Nat) (answer : Except JoinError (String × Option CapturedSelfJoin))
  | persist (call : Nat) (found : Resolution) (written : Except JoinError Unit)
  | conclude (call : Nat) (native bridge : Except JoinError Unit) (removed : Bool)
  | list (pass : Nat)
  | probe (pass : Nat) (status : Option MembershipStatus) (nowMs : Nat)
  | drive (pass : Nat) (done : Bool) (nowMs : Nat)
  | applied (task : Nat) (groupId : String) (probeKeyed : Option Bool)
  | retire (task : Nat) (removed : Bool)
  | restart

def step (env : Environment) (system : System) : Event → System
  | .call invite => system.call env invite
  | .post call answer => system.post call answer
  | .persist call found written => system.persist env call found written
  | .conclude call native bridge removed => system.conclude call native bridge removed
  | .list pass =>
    { system with
      passes := update system.passes pass (some ⟨system.store.list, none⟩) }
  | .probe pass status nowMs => system.probe pass status nowMs
  | .drive pass done nowMs => system.drive pass done nowMs
  | .applied task groupId probeKeyed => system.applied task groupId probeKeyed
  | .retire task removed => system.retire task removed
  | .restart => system.restart

end System

section
variable (guards : Spend → PendingJoin → Prop)

def Held (store : PendingJoinStore) (spend : Spend) : Prop :=
  ∃ record, store.lookup spend.groupId = some record ∧ record.isTerminal = false ∧
    guards spend record

def Keeps (spends : List Spend) : FileAction → Prop
  | .keep => True
  | .put record => ∀ spend ∈ spends, spend.groupId = record.groupId → guards spend record
  | .remove groupId => ∀ spend ∈ spends, spend.groupId ≠ groupId

instance [∀ spend record, Decidable (guards spend record)] (spends : List Spend)
    (action : FileAction) : Decidable (Keeps guards spends action) := by
  cases action <;> unfold Keeps <;> infer_instance

def KeepsDriven (spends : List Spend) (nowMs : Nat) : Option Pass → Prop
  | some ⟨record :: _, some status⟩ => Keeps guards spends (driveOnce record status nowMs)
  | _ => True

instance [∀ spend record, Decidable (guards spend record)] (spends : List Spend) (nowMs : Nat)
    (pass : Option Pass) : Decidable (KeepsDriven guards spends nowMs pass) := by
  unfold KeepsDriven
  split <;> infer_instance

def KeepsRetired (spends : List Spend) (retiring : Option String) : Prop :=
  ∀ groupId ∈ retiring, ∀ spend ∈ spends, spend.groupId ≠ groupId

instance (spends : List Spend) (retiring : Option String) :
    Decidable (KeepsRetired spends retiring) :=
  inferInstanceAs (Decidable (∀ _ ∈ _, _))

variable {guards}

variable {spend : Spend}

theorem held_upsert (store : PendingJoinStore)
    (here : spend.groupId = record.groupId) (live : record.isTerminal = false)
    (guarded : guards spend record) : Held guards (store.upsert record) spend := by
  refine ⟨record, ?_, live, guarded⟩
  rw [here]
  exact AList.lookup_insert store

theorem Held.upsert {store : PendingJoinStore} (held : Held guards store spend)
    (live : record.isTerminal = false)
    (same : spend.groupId = record.groupId → guards spend record) :
    Held guards (store.upsert record) spend := by
  by_cases here : spend.groupId = record.groupId
  · exact held_upsert store here live (same here)
  · obtain ⟨old, found, rest⟩ := held
    refine ⟨old, ?_, rest⟩
    rw [PendingJoinStore.upsert, AList.lookup_insert_ne here]
    exact found

theorem Held.apply {store : PendingJoinStore} (held : Held guards store spend)
    (mem : spend ∈ spends) (keeps : Keeps guards spends action)
    (live : ∀ record, action = .put record → record.isTerminal = false) :
    Held guards (action.apply store) spend := by
  cases action with
  | keep => exact held
  | put record => exact held.upsert (live record rfl) (keeps spend mem)
  | remove groupId =>
    obtain ⟨old, found, rest⟩ := held
    refine ⟨old, ?_, rest⟩
    rw [FileAction.apply, PendingJoinStore.remove, AList.lookup_erase_ne (keeps spend mem)]
    exact found

end

theorem joinResult_persisted (groupId : String) (outcome : Except JoinError Unit) :
    (System.joinResult groupId true outcome).1 = .keep := by
  unfold System.joinResult
  split <;> rfl

theorem joinResult_unpersisted (groupId : String) (native bridge : Except JoinError Unit) :
    native.isOk ∧ (System.joinResult groupId false (runNativeThenBridge false native bridge)).1 =
        .keep ∨
      (System.joinResult groupId false (runNativeThenBridge false native bridge)).1 =
        .remove groupId := by
  cases native with
  | ok _ => exact .inl ⟨rfl, rfl⟩
  | error error => exact .inr rfl

theorem driveOnce_live (h : driveOnce record status nowMs = .put changed) :
    changed.isTerminal = false := by
  unfold driveOnce at h
  split at h
  · cases h
  · split at h <;> cases h <;> rfl

namespace System

theorem persist_put {system : System} {call : Nat} {invite groupId : String}
    (now : system.stages call = some (.posted invite groupId captured))
    (inviter : (env.inviterAgentIdFromMemberJoined captured.payload).isSome)
    (key : found.ownerKem.isOk) (wrote : written.isOk) :
    ∃ record, Built groupId (env.inviteHash invite) captured record ∧
      system.persist env call found written =
        (system.act (.put record)).setStage call (.waiting groupId true) := by
  obtain ⟨record, built⟩ := buildPendingJoin_isOk inviter key groupId (env.inviteHash invite)
  refine ⟨record, buildPendingJoin_ok built, ?_⟩
  cases written with
  | error error => cases wrote
  | ok _ => simp only [persist, now, built]

/-- An invariant that file actions keep while the spends stay guarded, that confirmed spends may
leave, and that knows nothing of passes and applies. -/
structure Background (guards : Spend → PendingJoin → Prop) (spends : System → List Spend)
    (holds : System → Prop) : Prop where
  act : ∀ {system : System}, holds system → ∀ action, Keeps guards (spends system) action →
    (∀ record, action = .put record → record.isTerminal = false) → holds (system.act action)
  confirm : ∀ {system : System}, holds system → ∀ groupId, holds (system.confirm groupId)
  schedule : ∀ {system : System}, holds system → ∀ passes retiring,
    holds { system with passes := passes, retiring := retiring }

namespace Background
variable {guards : Spend → PendingJoin → Prop} {spends : System → List Spend}
  {holds : System → Prop} (rule : Background guards spends holds) {system : System}
  (held : holds system)
include rule held

theorem probe (pass : Nat) (status : Option MembershipStatus) (nowMs : Nat) :
    holds (system.probe pass status nowMs) := by
  unfold System.probe
  split
  · split
    · exact rule.schedule held _ _
    · split
      · exact rule.confirm (rule.schedule held _ _) _
      · exact rule.schedule held _ _
  · exact held

theorem drive (pass : Nat) (done : Bool) (nowMs : Nat)
    (kept : KeepsDriven guards (spends system) nowMs (system.passes pass)) :
    holds (system.drive pass done nowMs) := by
  unfold System.drive
  split
  · rename_i record rest status now
    rw [now] at kept
    split
    · exact rule.schedule (rule.act held _ kept fun _ put => driveOnce_live put) _ _
    · exact rule.schedule held _ _
  · exact held

theorem applied (task : Nat) (groupId : String) (probeKeyed : Option Bool) :
    holds (system.applied task groupId probeKeyed) := by
  unfold System.applied
  split
  · exact rule.schedule (rule.confirm held groupId) _ _
  · exact held

theorem retire (task : Nat) (removed : Bool)
    (kept : KeepsRetired (spends system) (system.retiring task)) :
    holds (system.retire task removed) := by
  unfold System.retire
  split
  · rename_i groupId now
    cases removed with
    | true => exact rule.schedule (rule.act held (.remove groupId) (kept groupId now) (by simp)) _ _
    | false => exact rule.schedule held _ _
  · exact held

end Background

end System

def toyEnvironment : Environment := ⟨id, fun _ => some "owner", []⟩

def toyEvent : CapturedSelfJoin := ⟨"topic", [1]⟩

def toyResolution : Resolution := ⟨.ok [2], none, none, 0⟩

end Fetchit.Chat.DurableJoin
