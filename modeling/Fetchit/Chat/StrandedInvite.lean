import Fetchit.Chat.DurableJoin

/-! Whether a spent invite can still be completed. Once a call has returned, the record with its
captured event must stay on disk until a probe has found the joiner keyed; the call itself,
other calls for the group, driver passes and join-result applies write and remove that file. -/
namespace Fetchit.Chat.DurableJoin
open Lib Lib.Run

def Carries (spend : Spend) (record : PendingJoin) : Prop :=
  ∀ event ∈ spend.captured, record.capturedEventB64 = Base64.encode event.payload ∧
    record.capturedTopic = event.topic

instance (spend : Spend) (record : PendingJoin) : Decidable (Carries spend record) :=
  inferInstanceAs (Decidable (∀ _ ∈ _, _))

namespace System

def owing (system : System) : List Spend :=
  system.unconfirmed.filter (·.captured.isSome)

def hasReturned (system : System) (call : Nat) : Prop :=
  call ∈ system.returned.map (·.1)

instance (system : System) (call : Nat) : Decidable (system.hasReturned call) :=
  inferInstanceAs (Decidable (_ ∈ _))

/-- Every call that has spent an invite and has returned is on disk with its event, as long as
the joiner has not been found keyed. -/
def Recoverable (system : System) : Prop :=
  ∀ spend ∈ system.owing, system.hasReturned spend.call → Held Carries system.store spend

/-- A call that has spent its invite can write its record, and no record with the event of
another spend is in its place. -/
def RecordsEvent (env : Environment) (spends : List Spend) (found : Resolution)
    (written : Except JoinError Unit) : Option Stage → Prop
  | some (.posted _ groupId captured) =>
    (env.inviterAgentIdFromMemberJoined captured.payload).isSome ∧ found.ownerKem.isOk ∧
      written.isOk ∧ ∀ spend ∈ spends, spend.groupId = groupId → spend.captured = some captured
  | _ => True

instance (env : Environment) (spends : List Spend) (found : Resolution)
    (written : Except JoinError Unit) :
    (stage : Option Stage) → Decidable (RecordsEvent env spends found written stage)
  | some (.posted _ _ _) => inferInstanceAs (Decidable (_ ∧ _ ∧ _ ∧ _))
  | some (.looked _) => isTrue trivial
  | some (.waiting _ _) => isTrue trivial
  | none => isTrue trivial

/-- A call without a captured event fails only where no other call has spent an invite. -/
def KeepsConcluded (spends : List Spend) (native : Except JoinError Unit) :
    Option Stage → Prop
  | some (.waiting groupId false) =>
    native.isOk ∨ ∀ spend ∈ spends, spend.groupId ≠ groupId
  | _ => True

instance (spends : List Spend) (native : Except JoinError Unit) :
    (stage : Option Stage) → Decidable (KeepsConcluded spends native stage)
  | some (.waiting _ false) => inferInstanceAs (Decidable (_ ∨ _))
  | some (.waiting _ true) => isTrue trivial
  | some (.looked _) => isTrue trivial
  | some (.posted _ _ _) => isTrue trivial
  | none => isTrue trivial

theorem KeepsConcluded.keeps (kept : KeepsConcluded spends native stage)
    (now : stage = some (.waiting groupId persisted)) (bridge : Except JoinError Unit) :
    Keeps Carries spends
        (joinResult groupId persisted (runNativeThenBridge persisted native bridge)).1 ∧
      ∀ record, (joinResult groupId persisted (runNativeThenBridge persisted native bridge)).1 =
        .put record → record.isTerminal = false := by
  subst now
  cases persisted with
  | true =>
    rw [joinResult_persisted]
    exact ⟨trivial, by simp⟩
  | false =>
    rcases joinResult_unpersisted groupId native bridge with ⟨_, keep⟩ | remove
    · rw [keep]
      exact ⟨trivial, by simp⟩
    · rw [remove]
      refine ⟨?_, by simp⟩
      rcases kept with succeeded | away
      · cases native with
        | ok _ => cases remove
        | error error => cases succeeded
      · exact away

/-- A spent invite gets its record, and nothing that knows of another join or of an earlier
state of the group writes or removes the group's file. -/
def Undisturbed (env : Environment) (system : System) : Event → Prop
  | .persist call found written =>
    RecordsEvent env system.owing found written (system.stages call)
  | .conclude call native _ _ => KeepsConcluded system.owing native (system.stages call)
  | .drive pass _ nowMs => KeepsDriven Carries system.owing nowMs (system.passes pass)
  | .retire task _ => KeepsRetired system.owing (system.retiring task)
  | _ => True

instance (env : Environment) (system : System) :
    (event : Event) → Decidable (system.Undisturbed env event)
  | .persist _ _ _ => inferInstanceAs (Decidable (RecordsEvent _ _ _ _ _))
  | .conclude _ _ _ _ => inferInstanceAs (Decidable (KeepsConcluded _ _ _))
  | .drive _ _ _ => inferInstanceAs (Decidable (KeepsDriven _ _ _ _))
  | .retire _ _ => inferInstanceAs (Decidable (KeepsRetired _ _))
  | .call _ | .post _ _ | .list _ | .probe _ _ _ | .applied _ _ _ | .restart => isTrue trivial

/-- Where a spend's event is: on disk, with its call, or lost with a call that a restart took. -/
structure Owed (system : System) : Prop where
  known : ∀ call stage, system.stages call = some stage →
    call < system.calls ∧ ¬ system.hasReturned call
  past : ∀ call, system.hasReturned call → call < system.calls
  spent : ∀ spend ∈ system.owing, spend.call < system.calls
  owed : ∀ spend ∈ system.owing, Held Carries system.store spend ∨
    (∃ event, spend.captured = some event ∧
      system.stages spend.call = some (.posted spend.invite spend.groupId event)) ∨
    system.stages spend.call = none ∧ ¬ system.hasReturned spend.call

theorem Owed.recoverable {system : System} (owed : system.Owed) : system.Recoverable := by
  intro spend mem returned
  rcases owed.owed spend mem with held | ⟨event, _, posted⟩ | ⟨_, unreturned⟩
  · exact held
  · exact absurd returned (owed.known _ _ posted).2
  · exact absurd returned unreturned

namespace Owed
variable {env : Environment} {system : System}

variable (owed : system.Owed)
include owed

theorem confirm (groupId : String) : (system.confirm groupId).Owed := by
  have before : ∀ spend ∈ (system.confirm groupId).owing, spend ∈ system.owing := by
    intro spend mem
    obtain ⟨kept, captures⟩ := List.mem_filter.mp mem
    exact List.mem_filter.mpr ⟨List.mem_of_mem_filter kept, captures⟩
  exact ⟨owed.known, owed.past, fun spend mem => owed.spent spend (before spend mem),
    fun spend mem => owed.owed spend (before spend mem)⟩

theorem act (action : FileAction) (keeps : Keeps Carries system.owing action)
    (live : ∀ record, action = .put record → record.isTerminal = false) :
    (system.act action).Owed := by
  refine ⟨owed.known, owed.past, owed.spent, ?_⟩
  intro spend mem
  rcases owed.owed spend mem with held | way
  · exact .inl (held.apply mem keeps live)
  · exact .inr way

theorem held_of_stage {call : Nat} (now : system.stages call = some stage)
    (unposted : ∀ invite groupId event, stage ≠ .posted invite groupId event) {spend : Spend}
    (mem : spend ∈ system.owing) (own : spend.call = call) :
    Held Carries system.store spend := by
  rcases owed.owed spend mem with held | ⟨event, _, posted⟩ | ⟨gone, _⟩
  · exact held
  · rw [own, now] at posted
    cases posted
    exact absurd rfl (unposted _ _ _)
  · rw [own, now] at gone
    cases gone

theorem setStage {call : Nat} (stage : Stage) (bound : call < system.calls)
    (unreturned : ¬ system.hasReturned call)
    (held : ∀ spend ∈ system.owing, spend.call = call → Held Carries system.store spend) :
    (system.setStage call stage).Owed := by
  refine ⟨?_, owed.past, owed.spent, ?_⟩
  · intro other next now
    by_cases same : other = call
    · subst same
      exact ⟨bound, unreturned⟩
    · exact owed.known other next (by simpa [System.setStage, same] using now)
  · intro spend mem
    by_cases same : spend.call = call
    · exact .inl (held spend mem same)
    · have before := owed.owed spend mem
      simpa [System.setStage, hasReturned, same] using before

theorem finish {call : Nat} (bound : call < system.calls)
    (held : ∀ spend ∈ system.owing, spend.call = call → Held Carries system.store spend)
    (reply : Except JoinError JoinOutcome) : (system.finish call reply).Owed := by
  refine ⟨?_, ?_, owed.spent, ?_⟩
  · intro other next now
    by_cases same : other = call
    · simp [System.finish, same] at now
    · have before := owed.known other next (by simpa [System.finish, same] using now)
      exact ⟨before.1, by simpa [System.finish, hasReturned, same] using before.2⟩
  · intro other returned
    rcases List.mem_cons.mp returned with rfl | earlier
    · exact bound
    · exact owed.past other earlier
  · intro spend mem
    by_cases same : spend.call = call
    · exact .inl (held spend mem same)
    · have before := owed.owed spend mem
      simpa [System.finish, hasReturned, same] using before

theorem call (invite : String) : (system.call env invite).Owed := by
  have entered : ({ system with calls := system.calls + 1 } : System).Owed :=
    ⟨fun other stage now => ⟨Nat.lt_succ_of_lt (owed.known other stage now).1,
        (owed.known other stage now).2⟩,
      fun other returned => Nat.lt_succ_of_lt (owed.past other returned),
      fun spend mem => Nat.lt_succ_of_lt (owed.spent spend mem), owed.owed⟩
  have fresh : ∀ spend ∈ system.owing, spend.call = system.calls →
      Held Carries system.store spend := by
    intro spend mem same
    have old := owed.spent spend mem
    omega
  unfold System.call
  split
  · exact entered.finish (Nat.lt_succ_self _) fresh _
  · refine entered.setStage _ (Nat.lt_succ_self _) ?_ fresh
    intro returned
    exact Nat.lt_irrefl _ (owed.past _ returned)

theorem spend {call : Nat} (bound : call < system.calls)
    (posted : ∀ event, captured = some event →
      system.stages call = some (.posted invite groupId event)) :
    ({ system with unconfirmed := ⟨call, invite, groupId, captured⟩ :: system.unconfirmed } :
      System).Owed := by
  have now : ∀ spend ∈ ({ system with unconfirmed := ⟨call, invite, groupId, captured⟩ ::
      system.unconfirmed } : System).owing,
      spend = ⟨call, invite, groupId, captured⟩ ∧ captured.isSome ∨ spend ∈ system.owing := by
    intro spend mem
    obtain ⟨listed, captures⟩ := List.mem_filter.mp mem
    rcases List.mem_cons.mp listed with rfl | old
    · exact .inl ⟨rfl, captures⟩
    · exact .inr (List.mem_filter.mpr ⟨old, captures⟩)
  refine ⟨owed.known, owed.past, ?_, ?_⟩
  · intro spend mem
    rcases now spend mem with ⟨rfl, _⟩ | old
    · exact bound
    · exact owed.spent spend old
  · intro spend mem
    rcases now spend mem with ⟨rfl, captures⟩ | old
    · obtain ⟨event, rfl⟩ := Option.isSome_iff_exists.mp captures
      exact .inr (.inl ⟨event, rfl, posted event rfl⟩)
    · exact owed.owed spend old

theorem post (call : Nat) (answer : Except JoinError (String × Option CapturedSelfJoin)) :
    (system.post call answer).Owed := by
  unfold System.post
  split
  · rename_i looked
    exact owed.finish (owed.known _ _ looked).1
      (fun spend mem own => owed.held_of_stage looked (by simp) mem own) _
  · rename_i invite groupId captured looked
    obtain ⟨bound, unreturned⟩ := owed.known _ _ looked
    have held : ∀ spend ∈ system.owing, spend.call = call → Held Carries system.store spend :=
      fun spend mem own => owed.held_of_stage looked (by simp) mem own
    refine (owed.setStage _ bound unreturned held).spend bound ?_
    rintro event rfl
    simp [System.setStage]
  · exact owed

theorem persist (call : Nat) (found : Resolution) (written : Except JoinError Unit)
    (kept : RecordsEvent env system.owing found written (system.stages call)) :
    (system.persist env call found written).Owed := by
  unfold System.persist
  cases now : system.stages call with
  | none => exact owed
  | some stage =>
    cases stage with
    | looked | waiting => exact owed
    | posted invite groupId captured =>
      rw [now] at kept
      obtain ⟨inviter, key, wrote, same⟩ := kept
      obtain ⟨record, facts, put⟩ := persist_put now inviter key wrote
      have carries : ∀ spend ∈ system.owing, spend.groupId = record.groupId →
          Carries spend record := by
        intro spend mem here event captures
        have is := same spend mem (here.trans facts.group)
        rw [is] at captures
        cases captures
        exact ⟨facts.event, facts.topic⟩
      have acted := owed.act (.put record) carries (by rintro _ ⟨⟩; exact facts.live)
      obtain ⟨bound, unreturned⟩ := owed.known _ _ now
      rw [System.persist, now] at put
      rw [put]
      refine acted.setStage _ bound unreturned ?_
      intro spend mem own
      rcases owed.owed spend mem with before | ⟨event, captures, posted⟩ | ⟨gone, _⟩
      · exact before.upsert facts.live (carries spend mem)
      · rw [own, now] at posted
        cases posted
        exact held_upsert _ facts.group.symm facts.live (carries spend mem facts.group.symm)
      · rw [own, now] at gone
        cases gone

theorem conclude (call : Nat) (native bridge : Except JoinError Unit)
    (removed : Bool) (kept : KeepsConcluded system.owing native (system.stages call)) :
    (system.conclude call native bridge removed).Owed := by
  unfold System.conclude
  split
  · rename_i groupId persisted now
    have keeps := kept.keeps now bridge
    generalize joinResult groupId persisted (runNativeThenBridge persisted native bridge) =
      result at keeps
    have held : ∀ spend ∈ system.owing, spend.call = call → Held Carries system.store spend :=
      fun spend mem own => owed.held_of_stage now (by simp) mem own
    obtain ⟨bound, _⟩ := owed.known _ _ now
    cases removed with
    | true =>
      have live : ∀ record, result.1 = .put record → record.isTerminal = false := keeps.2
      exact (owed.act result.1 keeps.1 live).finish bound
        (fun spend mem own => (held spend mem own).apply mem keeps.1 live) _
    | false => exact owed.finish bound held _
  · exact owed

omit owed in
theorem background : Background Carries owing Owed where
  act := fun owed action keeps live => owed.act action keeps live
  confirm := fun owed groupId => owed.confirm groupId
  schedule := fun owed _ _ => ⟨owed.known, owed.past, owed.spent, owed.owed⟩

theorem restart : system.restart.Owed := by
  refine ⟨?_, owed.past, owed.spent, ?_⟩
  · intro call stage now
    cases now
  · intro spend mem
    rcases owed.owed spend mem with held | ⟨event, _, posted⟩ | ⟨_, unreturned⟩
    · exact .inl held
    · exact .inr (.inr ⟨rfl, (owed.known _ _ posted).2⟩)
    · exact .inr (.inr ⟨rfl, unreturned⟩)

end Owed

theorem owed_step (env : Environment) (system : System) (event : Event) (owed : system.Owed)
    (kept : system.Undisturbed env event) : (step env system event).Owed := by
  cases event with
  | call invite => exact owed.call invite
  | post call answer => exact owed.post call answer
  | persist call found written => exact owed.persist call found written kept
  | conclude call native bridge removed => exact owed.conclude call native bridge removed kept
  | list pass => exact Owed.background.schedule owed _ _
  | probe pass status nowMs => exact Owed.background.probe owed pass status nowMs
  | drive pass done nowMs => exact Owed.background.drive owed pass done nowMs kept
  | applied task groupId probeKeyed => exact Owed.background.applied owed task groupId probeKeyed
  | retire task removed => exact Owed.background.retire owed task removed kept
  | restart => exact owed.restart

theorem owed_start (store : PendingJoinStore) : (start store).Owed := by
  constructor <;> simp [start, owing, hasReturned]

/-- In a run that meets the condition every spent invite whose call has returned can still be
completed from disk until a probe finds the joiner keyed. -/
theorem recoverable_of_undisturbed (env : Environment) (store : PendingJoinStore)
    (events : List Event) (kept : Meets (step env) (Undisturbed env) (start store) events) :
    (run (step env) (start store) events).Recoverable :=
  (run_invariant Owed (owed_step env) events _ (owed_start store) kept).recoverable

/-- The bridge fails, two driver passes write the record again, an applied join result is not
confirmed by the probe, and the process restarts: the event is still there. -/
theorem recoverable_after_failed_bridge :
    let events := [Event.call "invite", .post 0 (.ok ("group", some toyEvent)),
      .persist 0 toyResolution (.ok ()), .conclude 0 (.ok ()) (.error (.other "relay")) true,
      .list 0, .probe 0 (some .absent) 5, .drive 0 true 5, .applied 0 "group" (some false),
      .restart, .list 1, .probe 1 (some .listedButUnkeyed) 9000, .drive 1 true 9000]
    let final := run (step toyEnvironment) (start ∅) events
    final.owing.length = 1 ∧ final.hasReturned 0 ∧ final.Recoverable := by
  intro events final
  exact ⟨by decide +kernel, by decide +kernel,
    recoverable_of_undisturbed toyEnvironment ∅ events (by decide +kernel)⟩

/-- The owner's key does not resolve after `join_post` has succeeded. And: a call for another
invite of the group, whose daemon returns no event, removes the record when its wait fails. -/
theorem unresolved_owner_key_strands_invite :
    ¬ (run (step toyEnvironment) (start ∅) [Event.call "invite",
      .post 0 (.ok ("group", some toyEvent)),
      .persist 0 ⟨.error (.other "owner key"), none, none, 0⟩ (.ok ())]).Recoverable ∧
    ¬ (run (step toyEnvironment) (start ∅) [Event.call "invite",
      .post 0 (.ok ("group", some toyEvent)), .persist 0 toyResolution (.ok ()),
      .conclude 0 (.ok ()) (.error (.other "relay")) true, .call "other",
      .post 1 (.ok ("group", none)),
      .conclude 1 (.error (.joinerNotConverged "group" 60000)) (.ok ()) true]).Recoverable := by
  constructor
  all_goals
    intro recoverable
    obtain ⟨record, found, _⟩ := recoverable ⟨0, "invite", "group", some toyEvent⟩
      (by decide +kernel) (by decide +kernel)
    cases found

end System

end Fetchit.Chat.DurableJoin
