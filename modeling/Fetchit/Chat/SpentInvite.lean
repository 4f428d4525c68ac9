import Fetchit.Chat.DurableJoin

/-! Whether an invite is spent once. A call looks for a record of its invite, and the record is
written only after `join_post` has returned and the owner's key is resolved, so what happens in
between decides. -/
namespace Fetchit.Chat.DurableJoin
open Lib Lib.Run

def Answers (env : Environment) (spend : Spend) (record : PendingJoin) : Prop :=
  record.inviteHash = env.inviteHash spend.invite

instance (env : Environment) (spend : Spend) (record : PendingJoin) :
    Decidable (Answers env spend record) :=
  inferInstanceAs (Decidable (_ = _))

theorem inProgress_of_held {store : PendingJoinStore} (held : Held (Answers env) store spend) :
    (inProgress env store spend.invite).isSome := by
  obtain ⟨record, found, live, answers⟩ := held
  apply List.find?_isSome.mpr
  refine ⟨record, PendingJoinStore.mem_list found, ?_⟩
  rw [live, answers]
  simp

namespace System

def opening (system : System) (call : Nat) : Option String :=
  (system.stages call).bind Stage.opening

def isPosted (system : System) (call : Nat) : Bool :=
  match system.stages call with
  | some (.posted _ _ _) => true
  | _ => false

/-- A call that has spent its invite can write its record, and the record of no spend of another
invite is in its place. -/
def RecordsSpend (env : Environment) (spends : List Spend) (found : Resolution)
    (written : Except JoinError Unit) : Option Stage → Prop
  | some (.posted invite groupId captured) =>
    (env.inviterAgentIdFromMemberJoined captured.payload).isSome ∧ found.ownerKem.isOk ∧
      written.isOk ∧ ∀ spend ∈ spends, spend.groupId = groupId →
        env.inviteHash spend.invite = env.inviteHash invite
  | _ => True

instance (env : Environment) (spends : List Spend) (found : Resolution)
    (written : Except JoinError Unit) (stage : Option Stage) :
    Decidable (RecordsSpend env spends found written stage) := by
  unfold RecordsSpend
  split <;> infer_instance

/-- No call for the invite is between its lookup and its write. A spent invite gets its record,
and no write or removal takes away the record of another spend. -/
def GuardsSpends (env : Environment) (system : System) : Event → Prop
  | .call invite => ∀ call < system.calls, system.opening call ≠ some invite
  | .post _ answer => ∀ found ∈ answer.toOption, found.2.isSome
  | .persist call found written =>
    RecordsSpend env system.unconfirmed found written (system.stages call)
  | .drive pass _ nowMs =>
    KeepsDriven (Answers env) system.unconfirmed nowMs (system.passes pass)
  | .retire task _ => KeepsRetired system.unconfirmed (system.retiring task)
  | .restart => ∀ call < system.calls, system.isPosted call = false
  | _ => True

instance (env : Environment) (system : System) (event : Event) :
    Decidable (system.GuardsSpends env event) := by
  cases event <;> unfold GuardsSpends <;> infer_instance

/-- No invite has been spent twice before the joiner was found keyed in the group. -/
def SpentOnce (system : System) : Prop :=
  system.unconfirmed.Pairwise fun later earlier => later.invite ≠ earlier.invite

structure Guarded (env : Environment) (system : System) : Prop where
  known : ∀ call stage, system.stages call = some stage → call < system.calls
  alone : ∀ call other invite, system.opening call = some invite →
    system.opening other = some invite → call = other
  persisted : ∀ call groupId, system.stages call ≠ some (.waiting groupId false)
  unspent : ∀ call invite, system.stages call = some (.looked invite) →
    ∀ spend ∈ system.unconfirmed, spend.invite ≠ invite
  guarded : ∀ spend ∈ system.unconfirmed, Held (Answers env) system.store spend ∨
    ∃ captured, system.stages spend.call = some (.posted spend.invite spend.groupId captured)
  once : system.SpentOnce

theorem opening_of_stage {system : System} {call : Nat}
    (held : system.stages call = some stage) : system.opening call = stage.opening := by
  simp [opening, held]

namespace Guarded
variable {env : Environment} {system : System}

variable {invite : String}

variable (guarded : system.Guarded env)
include guarded

theorem opening_known {call : Nat}
    (opens : system.opening call = some invite) : call < system.calls := by
  obtain ⟨stage, held, _⟩ := Option.bind_eq_some_iff.mp opens
  exact guarded.known call stage held

theorem confirm (groupId : String) :
    (system.confirm groupId).Guarded env where
  known := guarded.known
  alone := guarded.alone
  persisted := guarded.persisted
  unspent call invite looked spend mem :=
    guarded.unspent call invite looked spend (List.mem_of_mem_filter mem)
  guarded spend mem := guarded.guarded spend (List.mem_of_mem_filter mem)
  once := List.Pairwise.filter _ guarded.once

theorem act (action : FileAction) (keeps : Keeps (Answers env) system.unconfirmed action)
    (live : ∀ record, action = .put record → record.isTerminal = false) :
    (system.act action).Guarded env where
  known := guarded.known
  alone := guarded.alone
  persisted := guarded.persisted
  unspent := guarded.unspent
  guarded spend mem := by
    rcases guarded.guarded spend mem with held | posted
    · exact .inl (held.apply mem keeps live)
    · exact .inr posted
  once := guarded.once

theorem held_of_unposted {call : Nat}
    (unposted : system.isPosted call = false) (mem : spend ∈ system.unconfirmed)
    (own : spend.call = call) : Held (Answers env) system.store spend := by
  rcases guarded.guarded spend mem with held | ⟨captured, posted⟩
  · exact held
  · rw [own] at posted
    simp [isPosted, posted] at unposted

theorem others_closed {call : Nat} (opens : system.opening call = some invite) :
    ∀ other, other ≠ call → system.opening other ≠ some invite :=
  fun other away opens' => away (guarded.alone other call invite opens' opens)

/-- A call whose spends are held moves on. The invite it opens is open in no other call, and the
invite it looks for has no spend. -/
theorem restage (call : Nat) (next : Option Stage) (bound : call < system.calls)
    (closed : ∀ invite, next.bind Stage.opening = some invite →
      ∀ other, other ≠ call → system.opening other ≠ some invite)
    (persisted : ∀ groupId, next ≠ some (.waiting groupId false))
    (unspent : ∀ invite, next = some (.looked invite) →
      ∀ spend ∈ system.unconfirmed, spend.invite ≠ invite)
    (held : ∀ spend ∈ system.unconfirmed, spend.call = call →
      Held (Answers env) system.store spend) :
    ({ system with stages := Function.update system.stages call next } : System).Guarded env := by
  have opening_now : ∀ other invite,
      ({ system with stages := Function.update system.stages call next } : System).opening other =
        some invite → other = call ∧ next.bind Stage.opening = some invite ∨
          other ≠ call ∧ system.opening other = some invite := by
    intro other invite opens
    by_cases same : other = call
    · exact .inl ⟨same, by simpa [opening, same] using opens⟩
    · exact .inr ⟨same, by simpa [opening, same] using opens⟩
  refine ⟨?_, ?_, ?_, ?_, ?_, guarded.once⟩
  · intro other stage now
    by_cases same : other = call
    · exact same ▸ bound
    · exact guarded.known other stage (by simpa [same] using now)
  · intro first second invite one two
    rcases opening_now first invite one with ⟨here, opens⟩ | ⟨away, before⟩
    · rcases opening_now second invite two with ⟨there, _⟩ | ⟨away, after⟩
      · rw [here, there]
      · exact absurd after (closed invite opens second away)
    · rcases opening_now second invite two with ⟨_, opens⟩ | ⟨_, after⟩
      · exact absurd before (closed invite opens first away)
      · exact guarded.alone first second invite before after
  · intro other groupId now
    by_cases same : other = call
    · exact persisted groupId (by simpa [same] using now)
    · exact guarded.persisted other groupId (by simpa [same] using now)
  · intro other invite now
    by_cases same : other = call
    · exact unspent invite (by simpa [same] using now)
    · exact guarded.unspent other invite (by simpa [same] using now)
  · intro spend mem
    by_cases same : spend.call = call
    · exact .inl (held spend mem same)
    · simpa [same] using guarded.guarded spend mem

theorem finish {call : Nat} (bound : call < system.calls)
    (unposted : system.isPosted call = false) (reply : Except JoinError JoinOutcome) :
    (system.finish call reply).Guarded env := by
  have ended := guarded.restage call none bound (by simp) (by simp) (by simp)
    (fun spend mem own => guarded.held_of_unposted unposted mem own)
  exact ⟨ended.known, ended.alone, ended.persisted, ended.unspent, ended.guarded, ended.once⟩

theorem enter :
    ({ system with calls := system.calls + 1 } : System).Guarded env where
  known call stage held := Nat.lt_succ_of_lt (guarded.known call stage held)
  alone := guarded.alone
  persisted := guarded.persisted
  unspent := guarded.unspent
  guarded := guarded.guarded
  once := guarded.once

theorem unused : system.stages system.calls = none := by
  cases held : system.stages system.calls with
  | none => rfl
  | some stage => exact absurd (guarded.known _ stage held) (Nat.lt_irrefl _)

theorem unspent_of_missing (free : ∀ call < system.calls, system.opening call ≠ some invite)
    (missing : inProgress env system.store invite = none) :
    ∀ spend ∈ system.unconfirmed, spend.invite ≠ invite := by
  rintro spend mem rfl
  rcases guarded.guarded spend mem with found | ⟨captured, posted⟩
  · have present := inProgress_of_held found
    rw [missing] at present
    cases present
  · exact free spend.call (guarded.known _ _ posted) (opening_of_stage posted)

theorem call (invite : String) (free : ∀ call < system.calls, system.opening call ≠ some invite) :
    (system.call env invite).Guarded env := by
  have entered := guarded.enter
  have unposted : system.isPosted system.calls = false := by simp [isPosted, guarded.unused]
  unfold System.call
  split
  · exact entered.finish (Nat.lt_succ_self _) unposted _
  · rename_i missing
    refine entered.restage system.calls (some (.looked invite)) (Nat.lt_succ_self _) ?_ (by simp)
      ?_ fun spend mem own => guarded.held_of_unposted unposted mem own
    · rintro _ ⟨⟩ other _ opens
      exact free other (guarded.opening_known opens) opens
    · rintro _ ⟨⟩
      exact guarded.unspent_of_missing free missing

theorem post (call : Nat) (answer : Except JoinError (String × Option CapturedSelfJoin))
    (captures : ∀ found ∈ answer.toOption, found.2.isSome) :
    (system.post call answer).Guarded env := by
  unfold System.post
  split
  · rename_i looked
    exact guarded.finish (guarded.known _ _ looked) (by simp [isPosted, looked]) _
  · rename_i invite groupId captured looked
    obtain ⟨event, rfl⟩ := Option.isSome_iff_exists.mp (captures _ rfl)
    have unposted : system.isPosted call = false := by simp [isPosted, looked]
    have posted := guarded.restage call (some (.posted invite groupId event))
      (guarded.known _ _ looked)
      (by rintro _ ⟨⟩; exact guarded.others_closed (opening_of_stage looked)) (by simp) (by simp)
      (fun spend mem own => guarded.held_of_unposted unposted mem own)
    have unspent := guarded.unspent call invite looked
    refine ⟨posted.known, posted.alone, posted.persisted, ?_, ?_, ?_⟩
    · intro other held now spend mem
      rcases List.mem_cons.mp mem with rfl | old
      · rintro rfl
        have same := posted.alone call other invite (by simp [opening, Stage.opening])
          (opening_of_stage now)
        simp [setStage, ← same] at now
      · exact posted.unspent other held now spend old
    · intro spend mem
      rcases List.mem_cons.mp mem with rfl | old
      · exact .inr ⟨event, by simp [setStage]⟩
      · exact posted.guarded spend old
    · exact List.pairwise_cons.mpr ⟨fun spend mem => (unspent spend mem).symm, guarded.once⟩
  · exact guarded

theorem persist (call : Nat) (found : Resolution) (written : Except JoinError Unit)
    (kept : RecordsSpend env system.unconfirmed found written (system.stages call)) :
    (system.persist env call found written).Guarded env := by
  unfold System.persist
  cases held : system.stages call with
  | none => exact guarded
  | some stage =>
    cases stage with
    | looked | waiting => exact guarded
    | posted invite groupId captured =>
      rw [held] at kept
      obtain ⟨inviter, key, wrote, same⟩ := kept
      obtain ⟨record, facts, put⟩ := persist_put held inviter key wrote
      have answers : ∀ spend ∈ system.unconfirmed, spend.groupId = record.groupId →
          Answers env spend record := by
        intro spend mem here
        exact facts.hash.trans (same spend mem (here.trans facts.group)).symm
      have acted := guarded.act (.put record) answers (by rintro _ ⟨⟩; exact facts.live)
      rw [System.persist, held] at put
      rw [put]
      refine acted.restage call (some (.waiting groupId true)) (guarded.known _ _ held)
        (by simp [Stage.opening]) (by simp) (by simp) ?_
      intro spend mem own
      rcases guarded.guarded spend mem with before | ⟨event, posted⟩
      · exact before.upsert facts.live (answers spend mem)
      · rw [own, held] at posted
        cases posted
        exact held_upsert _ facts.group.symm facts.live (answers spend mem facts.group.symm)

theorem conclude (call : Nat) (native bridge : Except JoinError Unit) (removed : Bool) :
    (system.conclude call native bridge removed).Guarded env := by
  unfold System.conclude
  split
  · rename_i groupId persisted held
    have kept : persisted = true := by
      cases persisted with
      | true => rfl
      | false => exact absurd held (guarded.persisted call groupId)
    subst kept
    simp only [joinResult_persisted, ite_self]
    exact guarded.finish (guarded.known _ _ held) (by simp [isPosted, held]) _
  · exact guarded

omit guarded in
theorem background (env : Environment) :
    Background (Answers env) System.unconfirmed (Guarded env) where
  act := fun guarded action keeps live => guarded.act action keeps live
  confirm := fun guarded groupId => guarded.confirm groupId
  schedule := fun guarded _ _ => ⟨guarded.known, guarded.alone, guarded.persisted,
    guarded.unspent, guarded.guarded, guarded.once⟩

theorem restart (kept : ∀ call < system.calls, system.isPosted call = false) :
    system.restart.Guarded env where
  known call stage held := by cases held
  alone call other invite held := by cases held
  persisted call groupId held := by cases held
  unspent call invite held := by cases held
  guarded spend mem := by
    rcases guarded.guarded spend mem with before | ⟨event, posted⟩
    · exact .inl before
    · have unposted := kept spend.call (guarded.known _ _ posted)
      simp [isPosted, posted] at unposted
  once := guarded.once

end Guarded

theorem guarded_step (env : Environment) (system : System) (event : Event)
    (guarded : system.Guarded env) (kept : system.GuardsSpends env event) :
    (step env system event).Guarded env := by
  have background := Guarded.background env
  cases event with
  | call invite => exact guarded.call invite kept
  | post call answer => exact guarded.post call answer kept
  | persist call found written => exact guarded.persist call found written kept
  | conclude call native bridge removed => exact guarded.conclude call native bridge removed
  | list pass => exact background.schedule guarded _ _
  | probe pass status nowMs => exact background.probe guarded pass status nowMs
  | drive pass done nowMs => exact background.drive guarded pass done nowMs kept
  | applied task groupId probeKeyed => exact background.applied guarded task groupId probeKeyed
  | retire task removed => exact background.retire guarded task removed kept
  | restart => exact guarded.restart kept

theorem guarded_start (env : Environment) (store : PendingJoinStore) :
    (start store).Guarded env := by
  constructor <;> simp [start, opening, SpentOnce]

/-- In a run that meets the condition no invite is spent a second time before a probe has found
the joiner keyed in the group. -/
theorem spentOnce_of_guardsSpends (env : Environment) (store : PendingJoinStore)
    (events : List Event) (kept : Meets (step env) (GuardsSpends env) (start store) events) :
    (run (step env) (start store) events).SpentOnce :=
  (run_invariant (Guarded env) (guarded_step env) events _ (guarded_start env store) kept).once

/-- A join whose owner is away: a second tap, a driver pass, and a tap after a restart. -/
theorem second_taps_spend_nothing :
    let events := [Event.call "invite", .post 0 (.ok ("group", some toyEvent)),
      .persist 0 toyResolution (.ok ()),
      .conclude 0 (.ok ()) (.error (.joinerNotConverged "group" 60000)) true, .call "invite",
      .list 0, .probe 0 (some .absent) 5, .drive 0 true 5, .restart, .call "invite"]
    let final := run (step toyEnvironment) (start ∅) events
    final.returned.map (·.2.toOption) = [some (.pending "group"), some (.pending "group"),
        some (.pending "group")] ∧
      final.unconfirmed.length = 1 ∧ final.SpentOnce := by
  intro events final
  exact ⟨by decide +kernel, by decide +kernel,
    spentOnce_of_guardsSpends toyEnvironment ∅ events (by decide +kernel)⟩

/-- Two calls that both look before either has written, and a restart between the answer of
`join_post` and the write. -/
theorem overlapping_taps_spend_twice :
    ¬ (run (step toyEnvironment) (start ∅) [Event.call "invite", .call "invite",
      .post 0 (.ok ("group", some toyEvent)), .post 1 (.ok ("group", some toyEvent))]).SpentOnce ∧
    ¬ (run (step toyEnvironment) (start ∅) [Event.call "invite",
      .post 0 (.ok ("group", some toyEvent)), .restart, .call "invite",
      .post 1 (.ok ("group", some toyEvent))]).SpentOnce := by
  constructor <;> simp [SpentOnce, step, start, System.call, System.post, System.restart,
    System.setStage, inProgress, PendingJoinStore.list]

end System

end Fetchit.Chat.DurableJoin
