import Fetchit.Relay.Publication

/-! Whether a rolled-back record can enter the directory. Each of the four maps compares a
record with the stored one only, so what a sweep takes away no longer guards its subject. -/
namespace Fetchit.Relay.Directory
open Lib.Ratchet Lib.Run Proto.PairRecord

def Enters (state next : ServerState) (key : Index × String) (mark : Nat) : Prop :=
  next.stamps = Function.update state.stamps key (some mark) ∧
    ∀ held, state.stamps key = some held → held < mark

section
variable {state next : ServerState}

theorem enters_of_put {Row : Type} (key : Row → String) (stamp : Row → Nat) (row : Row)
    {rows : String → Option Row}
    (above : ∀ current, rows (key row) = some current → stamp current < stamp row)
    (before : ∀ subject, state.stamps (index, subject) = (rows subject).map stamp)
    (after : ∀ subject, next.stamps (index, subject) =
      (Function.update rows (key row) (some row) subject).map stamp)
    (others : ∀ other subject, other ≠ index →
      next.stamps (other, subject) = state.stamps (other, subject)) :
    Enters state next (index, key row) (stamp row) := by
  constructor
  · funext slot
    rcases slot with ⟨other, subject⟩
    by_cases here : other = index
    · subst here
      by_cases same : subject = key row
      · simp [after, same]
      · simp [after, before, same]
    · simp [others other subject here, here]
  · intro held stored
    rw [before] at stored
    obtain ⟨current, present, rfl⟩ := Option.map_eq_some_iff.mp stored
    exact above current present

theorem enters_forwarding (h : state.forwarding.putIfNewer record nowMs = .ok index) :
    Enters state { state with forwarding := index } (.forwarding, record.agentIdHex)
      record.issuedAtMs := by
  obtain ⟨rfl, above⟩ := map_putIfNewer_ok _ _ h
  apply enters_of_put (·.record.agentIdHex) (·.record.issuedAtMs) (⟨record, nowMs⟩ : StoredForwarding)
    above (fun _ => rfl) (fun _ => rfl)
  intro other subject ne
  cases other <;> first | rfl | exact absurd rfl ne

theorem enters_pairRecord (h : state.pairRecords.putIfNewer record = .ok index) :
    Enters state { state with pairRecords := index } (.pairRecordV1, record.agentIdHex)
      record.issuedAtMs := by
  obtain ⟨rfl, above⟩ := map_putIfNewer_ok _ _ h
  apply enters_of_put (·.agentIdHex) (·.issuedAtMs) record above (fun _ => rfl) (fun _ => rfl)
  intro other subject ne
  cases other <;> first | rfl | exact absurd rfl ne

theorem enters_pairRecordV4 (h : state.pairRecords.putIfNewerV4 record = .ok index) :
    Enters state { state with pairRecords := index } (.pairRecordV4, record.userIdHex)
      record.revision := by
  obtain ⟨rfl, above⟩ := map_putIfNewer_ok _ _ h
  apply enters_of_put (·.userIdHex) (·.revision) record above (fun _ => rfl) (fun _ => rfl)
  intro other subject ne
  cases other <;> first | rfl | exact absurd rfl ne

theorem enters_profile (h : state.profiles.putIfNewer record = .ok index) :
    Enters state { state with profiles := index } (.profile, record.agentId)
      record.issuedAtMs := by
  obtain ⟨rfl, above⟩ := map_putIfNewer_ok _ _ h
  apply enters_of_put (·.agentId) (·.issuedAtMs) record above (fun _ => rfl) (fun _ => rfl)
  intro other subject ne
  cases other <;> first | rfl | exact absurd rfl ne

end

namespace System

def marks (system : System) : Marks (Index × String) :=
  ⟨system.state.stamps, system.lost, system.history.filterMap Note.acceptance⟩

def offer (system : System) : Event → Option ((Index × String) × Nat)
  | .storeForwarding task _ _ =>
    (system.posting task).map fun found =>
      ((.forwarding, found.1.agentIdHex), found.1.issuedAtMs)
  | .postPairRecord body _ =>
    body.record.map fun record => ((.pairRecordV1, record.agentIdHex), record.issuedAtMs)
  | .postPairRecordV4 body _ =>
    body.record.map fun record => ((.pairRecordV4, record.userIdHex), record.revision)
  | .postProfile body =>
    body.record.map fun record => ((.profile, record.agentId), record.issuedAtMs)
  | _ => none

/-- A record that is offered to a slot emptied by a sweep is newer than the one that the sweep
took from it. -/
def RefillsAbove (system : System) (event : Event) : Prop :=
  ∀ offered ∈ system.offer event, system.state.stamps offered.1 = none →
    ∀ gone ∈ system.lost offered.1, gone < offered.2

instance (system : System) (event : Event) : Decidable (system.RefillsAbove event) :=
  inferInstanceAs (Decidable (∀ offered ∈ system.offer event, _ → _))

variable {system : System}

theorem moves_settle {answer : Except Error ServerState}
    (accepts : note.acceptance = some (key, mark))
    (enters : ∀ next, answer = .ok next → Enters system.state next key mark)
    (refill : system.state.stamps key = none → ∀ gone, system.lost key = some gone →
      gone < mark) : Moves system.marks (system.settle answer note).marks := by
  cases answer with
  | error e => exact .idle _
  | ok next =>
    obtain ⟨stamps, above⟩ := enters next rfl
    have accepted : Moves system.marks _ :=
      .accept key mark above fun gone empty lost => refill empty gone lost
    simpa [marks, settle, stamps, accepts] using accepted

theorem moves_sweep (system : System) {state : ServerState}
    (kept : ∀ key, state.stamps key = system.state.stamps key ∨ state.stamps key = none) :
    Moves system.marks (system.sweep state).marks := by
  refine .sweep _ _ fun key => ?_
  by_cases emptied : state.stamps key = none ∧ system.state.stamps key ≠ none
  · right
    exact ⟨emptied.1, emptied.2, if_pos emptied⟩
  · left
    have same : state.stamps key = system.state.stamps key := by
      rcases kept key with same | gone
      · exact same
      · by_contra differ
        exact emptied ⟨gone, fun also => differ (gone.trans also.symm)⟩
    exact ⟨same, if_neg emptied⟩

theorem moves_settleBody {body : Body Record}
    {answer : Except Error ServerState} {note : Record → Note}
    (posts : ∀ record, body.record = some record → ∃ key mark,
      (note record).acceptance = some (key, mark) ∧
      (∀ next, answer = .ok next → Enters system.state next key mark) ∧
      (system.state.stamps key = none → ∀ gone, system.lost key = some gone → gone < mark)) :
    Moves system.marks (system.settleBody body answer note).marks := by
  unfold settleBody
  split
  · rename_i record parsed
    obtain ⟨key, mark, accepts, enters, refill⟩ := posts record parsed
    exact moves_settle accepts enters refill
  · exact .idle _

theorem map_retain {Row : Type} (keep : Row → Bool) (stamp : Row → Nat)
    (rows : String → Option Row) (subject : String) :
    (retain keep rows subject).map stamp = (rows subject).map stamp ∨
      (retain keep rows subject).map stamp = none := by
  unfold retain
  cases rows subject with
  | none => exact .inl rfl
  | some row =>
    by_cases kept : keep row = true
    · exact .inl (by simp [kept])
    · exact .inr (by simp [kept])

theorem step_moves (refills : system.RefillsAbove event) :
    Moves system.marks (step env system event).marks := by
  cases event with
  | lookupForwarding | readForwarding => exact .idle _
  | storeForwarding task allowed nowMs =>
    simp only [step]
    split
    · exact .idle _
    · rename_i record pubkey found
      refine moves_settle rfl ?_ ?_
      · intro next stored
        obtain ⟨_, index, put, rfl⟩ := storeForwarding_ok stored
        exact enters_forwarding put
      · exact refills (_, _) (by simp [offer, found])
  | postPairRecord body allowed =>
    refine moves_settleBody fun record parsed => ⟨_, _, rfl, ?_, ?_⟩
    · intro next stored
      obtain ⟨posted, index, same, put, rfl⟩ := postPairRecord_ok stored
      cases same.symm.trans parsed
      exact enters_pairRecord put
    · exact refills (_, _) (by simp [offer, parsed])
  | postPairRecordV4 body allowed =>
    refine moves_settleBody fun record parsed => ⟨_, _, rfl, ?_, ?_⟩
    · intro next stored
      obtain ⟨posted, index, same, put, rfl⟩ := postPairRecordV4_ok stored
      cases same.symm.trans parsed
      exact enters_pairRecordV4 put
    · exact refills (_, _) (by simp [offer, parsed])
  | postProfile body =>
    refine moves_settleBody fun record parsed => ⟨_, _, rfl, ?_, ?_⟩
    · intro next stored
      obtain ⟨posted, index, same, put, rfl, _⟩ := postProfile_ok stored
      cases same.symm.trans parsed
      exact enters_profile put
    · exact refills (_, _) (by simp [offer, parsed])
  | answerForwarding task =>
    simp only [step]
    split
    · exact .idle _
    · split <;> exact .idle _
  | sweepForwarding nowMs =>
    apply moves_sweep
    rintro ⟨index, subject⟩
    cases index with
    | forwarding => exact map_retain _ _ _ subject
    | pairRecordV1 | pairRecordV4 | profile => exact .inl rfl
  | sweepProfiles nowMs =>
    apply moves_sweep
    rintro ⟨index, subject⟩
    cases index with
    | forwarding | pairRecordV1 | pairRecordV4 => exact .inl rfl
    | profile => exact map_retain _ _ _ subject
  | sweepPairRecords nowMs =>
    apply moves_sweep
    rintro ⟨index, subject⟩
    cases index with
    | forwarding | profile => exact .inl rfl
    | pairRecordV1 | pairRecordV4 => exact map_retain _ _ _ subject

/-- Along every run that refills emptied slots only with newer records, the stamps accepted for
one subject of one index rise strictly. -/
theorem accepted_stamps_rise (env : Environment) (events : List Event)
    (refills : Meets (step env) RefillsAbove empty events) :
    Rising ((run (step env) empty events).history.filterMap Note.acceptance) := by
  have ordered := run_invariant (fun system : System => system.marks.Ordered)
    (fun system event held met => (step_moves met).ordered held) events empty
    ⟨List.Pairwise.nil, fun key mark mem => nomatch mem⟩ refills
  exact ordered.rising

/-- The pair record of the zero agent, evicted by age and replaced by a newer one. -/
theorem accepted_stamps_rise_after_eviction :
    Rising ((run (step acceptAll) empty
      [.postPairRecord ⟨100, some (zeroPairRecord 5)⟩ true, .sweepPairRecords 16,
        .postPairRecord ⟨100, some (zeroPairRecord 20)⟩ true]).history.filterMap
      Note.acceptance) :=
  accepted_stamps_rise acceptAll _ (by decide +kernel)

/-- Once a sweep has evicted a pair record, the same record is accepted again. -/
theorem evicted_pair_record_accepted_again :
    (run (step acceptAll) empty
      [.postPairRecord ⟨100, some (zeroPairRecord 5)⟩ true, .sweepPairRecords 16,
        .postPairRecord ⟨100, some (zeroPairRecord 5)⟩ true]).history =
      [.acceptedPairRecord (zeroPairRecord 5), .acceptedPairRecord (zeroPairRecord 5)] ∧
    ¬ Rising ((run (step acceptAll) empty
      [.postPairRecord ⟨100, some (zeroPairRecord 5)⟩ true, .sweepPairRecords 16,
        .postPairRecord ⟨100, some (zeroPairRecord 5)⟩ true]).history.filterMap
      Note.acceptance) := by
  decide +kernel

end System

end Fetchit.Relay.Directory
