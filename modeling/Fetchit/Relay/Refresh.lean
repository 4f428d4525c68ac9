import Fetchit.Chat.DeviceRecord
import Fetchit.Relay.Publication

/-! How long the relay serves an account record that its owner has just published again. The
owner posts the cached record as it is, with the time at which it was signed, and the sweeper
ages the record by that time. -/
namespace Fetchit.Relay.Directory
open Lib.Ratchet Lib.Run Proto.PairRecord Chat

def exchange (env : Environment) (state : ServerState) (length : Nat) (allowed : Bool)
    (record : PairRecordV4) : Except ChatError PostV4Outcome :=
  postOutcome (.ok (respond (postPairRecordV4 env state ⟨length, some record⟩ allowed)))

namespace System

def Event.nowMs : Event → Option Nat
  | .storeForwarding _ _ nowMs => some nowMs
  | .readForwarding _ _ nowMs => some nowMs
  | .sweepForwarding nowMs => some nowMs
  | .sweepProfiles nowMs => some nowMs
  | .sweepPairRecords nowMs => some nowMs
  | _ => none

/-- The event happens before the given time, and if it posts a record of the user, then one
that was not signed before `since`, up to a millisecond. -/
def Honours (user : String) (since limit : Nat) (event : Event) : Prop :=
  (∀ now ∈ event.nowMs, now < limit) ∧
  match event with
  | .postPairRecordV4 body _ =>
    ∀ record ∈ body.record, record.userIdHex = user → since ≤ record.issuedAtMs + 1
  | _ => True

def Lasts (user : String) (revision since : Nat) (system : System) : Prop :=
  ∃ stored, system.state.pairRecords.getV4 user = some stored ∧ revision ≤ stored.revision ∧
    since ≤ stored.issuedAtMs + 1

variable {system : System} {env : Environment} {user : String} {revision since : Nat}

theorem byUser_settleBody {body : Body Record}
    {answer : Except Error ServerState} {note : Record → Note} (same : ∀ next, answer = .ok next →
      next.pairRecords.byUser = system.state.pairRecords.byUser) :
    (system.settleBody body answer note).state.pairRecords.byUser =
      system.state.pairRecords.byUser := by
  unfold settleBody
  split
  · cases answer with
    | error e => rfl
    | ok next => exact same next rfl
  · rfl

theorem byUser_step (post : ∀ body allowed, event ≠ .postPairRecordV4 body allowed)
    (sweep : ∀ nowMs, event ≠ .sweepPairRecords nowMs) :
    (step env system event).state.pairRecords.byUser = system.state.pairRecords.byUser := by
  cases event with
  | storeForwarding task allowed nowMs =>
    simp only [step]
    split
    · rfl
    · rename_i record pubkey found
      cases outcome : Directory.storeForwarding env system.state record pubkey allowed nowMs with
      | error e => rfl
      | ok next =>
        obtain ⟨_, index, _, rfl⟩ := storeForwarding_ok outcome
        rfl
  | postPairRecord body allowed =>
    apply byUser_settleBody
    intro next stored
    obtain ⟨record, index, _, put, rfl⟩ := postPairRecord_ok stored
    obtain ⟨rfl, _⟩ := map_putIfNewer_ok _ _ put
    rfl
  | postPairRecordV4 body allowed => exact absurd rfl (post body allowed)
  | postProfile body =>
    apply byUser_settleBody
    intro next stored
    obtain ⟨record, index, _, put, rfl, _⟩ := postProfile_ok stored
    rfl
  | sweepPairRecords nowMs => exact absurd rfl (sweep nowMs)
  | answerForwarding task =>
    simp only [step]
    split <;> rfl
  | _ => rfl

theorem lasts_of_byUser (lasts : Lasts user revision since system)
    (same : next.state.pairRecords.byUser = system.state.pairRecords.byUser) :
    Lasts user revision since next := by
  unfold Lasts PairRecordIndex.getV4 at lasts ⊢
  rw [same]
  exact lasts

theorem lasts_post (lasts : Lasts user revision since system)
    (recent : ∀ record ∈ body.record, record.userIdHex = user →
      since ≤ record.issuedAtMs + 1) :
    Lasts user revision since (step env system (.postPairRecordV4 body allowed)) := by
  obtain ⟨stored, present, newer, lasting⟩ := lasts
  have kept : Lasts user revision since system := ⟨stored, present, newer, lasting⟩
  simp only [step, settleBody]
  split
  · rename_i record parsed
    cases outcome : Directory.postPairRecordV4 env system.state body allowed with
    | error e => exact kept
    | ok next =>
      obtain ⟨posted, index, same, put, rfl⟩ := postPairRecordV4_ok outcome
      cases same.symm.trans parsed
      obtain ⟨rfl, above⟩ := map_putIfNewer_ok _ _ put
      by_cases own : user = record.userIdHex
      · subst own
        refine ⟨record, by simp [settle, PairRecordIndex.getV4], ?_, recent record parsed rfl⟩
        have := above stored present
        omega
      · refine ⟨stored, ?_, newer, lasting⟩
        simpa [settle, PairRecordIndex.getV4, own] using present
  · exact kept

theorem lasts_sweep (lasts : Lasts user revision since system)
    (early : nowMs < since + env.pairRecordTtlMs) :
    Lasts user revision since (step env system (.sweepPairRecords nowMs)) := by
  obtain ⟨stored, present, newer, recent⟩ := lasts
  have young : nowMs - stored.issuedAtMs ≤ env.pairRecordTtlMs := by omega
  exact ⟨stored, retain_eq_some.mpr ⟨present, decide_eq_true young⟩, newer, recent⟩

theorem step_lasts (lasts : Lasts user revision since system)
    (honours : Honours user since (since + env.pairRecordTtlMs) event) :
    Lasts user revision since (step env system event) := by
  cases event with
  | postPairRecordV4 body allowed => exact lasts_post lasts honours.2
  | sweepPairRecords nowMs => exact lasts_sweep lasts (honours.1 nowMs rfl)
  | _ => exact lasts_of_byUser lasts (byUser_step nofun nofun)

theorem stored_of_exchange
    (accepted : exchange env system.state length allowed record = .ok .accepted) :
    (step env system (.postPairRecordV4 ⟨length, some record⟩ allowed)).state.pairRecords.getV4
      record.userIdHex = some record := by
  obtain ⟨next, outcome⟩ := postOutcome_respond_accepted.mp accepted
  obtain ⟨posted, index, same, put, rfl⟩ := postPairRecordV4_ok outcome
  cases same
  obtain ⟨rfl, _⟩ := map_putIfNewer_ok _ _ put
  simp [step, settleBody, outcome, settle, PairRecordIndex.getV4]

/-- A record that its owner publishes again at relay time `since`, and that the relay accepts, is
served under every schedule of the following lifetime exactly when it was signed no earlier
than a millisecond before. -/
theorem republished_served_iff (env : Environment) (before : List Event) (cached : PairRecordV4)
    (length : Nat) (allowed : Bool) (since : Nat)
    (accepted : exchange env (run (step env) empty before).state length allowed cached =
      .ok .accepted) :
    republishCachedPairRecordV4 (.ok (some cached))
      (exchange env (run (step env) empty before).state length allowed) = .ok () ∧
    ((∀ after : List Event,
        (∀ event ∈ after, Honours cached.userIdHex since (since + env.pairRecordTtlMs) event) →
        ∃ stored, (run (step env) empty (before ++
          .postPairRecordV4 ⟨length, some cached⟩ allowed :: after)).state.pairRecords.getV4
            cached.userIdHex = some stored ∧ cached.revision ≤ stored.revision) ↔
      since ≤ cached.issuedAtMs + 1) := by
  have stored := stored_of_exchange accepted
  constructor
  · simp [republishCachedPairRecordV4, accepted]
  constructor
  · intro served
    by_contra stale
    obtain ⟨found, present, _⟩ := served [.sweepPairRecords (since + env.pairRecordTtlMs - 1)]
      (by
        intro event mem
        cases List.mem_singleton.mp mem
        refine ⟨fun now same => ?_, trivial⟩
        cases same
        omega)
    rw [run_append] at present
    obtain ⟨before, young⟩ := retain_eq_some.mp present
    cases stored.symm.trans before
    have aged := of_decide_eq_true young
    omega
  · intro recent after honours
    rw [run_append]
    have lasts := run_invariant (Lasts cached.userIdHex cached.revision since)
      (fun _ _ => step_lasts) after _ ⟨cached, stored, le_rfl, recent⟩
      (meets_of_forall (fun event mem _ => honours event mem) _)
    obtain ⟨found, present, newer, _⟩ := lasts
    exact ⟨found, present, newer⟩

theorem fresh_record_served :
    exchange acceptAll (run (step acceptAll) empty []).state 100 true (zeroPairRecordV4 1 5) =
      .ok .accepted ∧
    ∃ stored, (run (step acceptAll) empty ([] ++ .postPairRecordV4
      ⟨100, some (zeroPairRecordV4 1 5)⟩ true :: [.sweepPairRecords 15])).state.pairRecords.getV4
        zeroId = some stored ∧ 1 ≤ stored.revision := by
  have accepted : exchange acceptAll (run (step acceptAll) empty []).state 100 true
      (zeroPairRecordV4 1 5) = .ok .accepted := by decide +kernel
  refine ⟨accepted, (republished_served_iff acceptAll [] (zeroPairRecordV4 1 5) 100 true 6
    accepted).2.mpr (by decide) [.sweepPairRecords 15] ?_⟩
  intro event mem
  cases List.mem_singleton.mp mem
  refine ⟨fun now same => ?_, trivial⟩
  cases same
  decide

/-- The owner publishes at relay time 100 a record signed at time 5; the relay accepts it and
its next sweep, a millisecond later, evicts it. -/
theorem republished_record_swept :
    exchange acceptAll ServerState.empty 100 true (zeroPairRecordV4 1 5) = .ok .accepted ∧
    101 < 100 + acceptAll.pairRecordTtlMs ∧
    (run (step acceptAll) empty [.postPairRecordV4 ⟨100, some (zeroPairRecordV4 1 5)⟩ true,
      .sweepPairRecords 101]).state.pairRecords.getV4 zeroId = none := by
  decide +kernel

end System

end Fetchit.Relay.Directory
