import Mathlib.Data.List.DropRight
import Fetchit.Lib.Run
import Fetchit.Outbox.Store

/-! Receipts for a message that is sent again. Every accepted copy has an id of its own, and the
bubble knows the last ones. -/
namespace Fetchit.Outbox.Resends
open Lib Lib.Run OutboxStore

structure Outcome where
  id : String
  result : Except SendError (Option String)
  nowMs : Nat
  fault : Bool

def acceptedIds : Except SendError (Option String) → List String
  | .ok (some messageId) => [messageId]
  | _ => []

/-- The store, and the ids under which the bubble was accepted, in order. A closed bubble takes no
outcome. -/
def step (id : String) (state : OutboxStore × List String) (outcome : Outcome) :
    OutboxStore × List String :=
  ((state.1.recordSendOutcome outcome.id outcome.result outcome.nowMs outcome.fault).2,
    if outcome.id = id ∧ (state.1.get id).any (!·.status.isTerminal) = true then
      state.2 ++ acceptedIds outcome.result
    else state.2)

def Distinct (state : OutboxStore × List String) (outcome : Outcome) : Prop :=
  ∀ messageId ∈ acceptedIds outcome.result, messageId ∉ state.2

instance (state : OutboxStore × List String) (outcome : Outcome) :
    Decidable (Distinct state outcome) :=
  inferInstanceAs (Decidable (∀ _ ∈ _, _))

/-- The bubble knows its last accepted id and the eight before it. -/
inductive Remembers (bubble : OutboxBubble) : List String → Prop where
  | fresh (unsent : bubble.messageId = none) (none : bubble.priorMessageIds = []) :
    Remembers bubble []
  | sent (last : bubble.messageId = some messageId) (apart : messageId ∉ earlier)
    (prior : bubble.priorMessageIds = earlier.rtake priorMessageIdCap) :
    Remembers bubble (earlier ++ [messageId])

theorem evict_rtake (ids : List String) :
    (if (ids.rtake priorMessageIdCap).length ≥ priorMessageIdCap then
      (ids.rtake priorMessageIdCap).drop 1 else ids.rtake priorMessageIdCap) = ids.rtake 7 := by
  simp only [List.rtake, priorMessageIdCap, List.length_drop, List.drop_drop]
  split <;> congr 1 <;> omega

section
variable (remembers : Remembers bubble ids)
include remembers

theorem Remembers.accepted (new : messageId ∉ ids) (now : Nat) :
    Remembers (bubble.accepted (some messageId) now) (ids ++ [messageId]) := by
  cases remembers with
  | fresh unsent none => exact .sent rfl new (by simp [OutboxBubble.accepted, unsent, none])
  | @sent last earlier found apart prior =>
    have unlisted : (earlier.rtake priorMessageIdCap).contains last = false := by
      rw [← Bool.not_eq_true, List.contains_iff_mem]
      exact fun mem => apart (List.mem_of_mem_drop mem)
    refine .sent rfl new ?_
    simp only [OutboxBubble.accepted, found, prior, unlisted]
    exact (congrArg (· ++ [last]) (evict_rtake earlier)).trans
      (List.rtake_concat_succ earlier 7 last).symm

theorem Remembers.attempted (new : ∀ messageId ∈ acceptedIds result, messageId ∉ ids) (now : Nat) :
    Remembers (bubble.attempted result now) (ids ++ acceptedIds result) := by
  have same {other : OutboxBubble} (current : other.messageId = bubble.messageId)
      (prior : other.priorMessageIds = bubble.priorMessageIds) : Remembers other (ids ++ []) := by
    rw [List.append_nil]
    cases remembers with
    | fresh unsent none => exact .fresh (current.trans unsent) (prior.trans none)
    | sent found apart listed => exact .sent (current.trans found) apart (prior.trans listed)
  cases result with
  | ok messageId =>
    cases messageId with
    | none => exact same rfl rfl
    | some messageId => exact remembers.accepted (new messageId List.mem_cons_self) now
  | error error =>
    unfold OutboxBubble.attempted OutboxBubble.refused
    dsimp only
    split <;> exact same rfl rfl

theorem Remembers.matches_iff :
    bubble.matchesReceipt messageId = true ↔ messageId ∈ ids.rtake (priorMessageIdCap + 1) := by
  cases remembers with
  | fresh unsent none => simp [OutboxBubble.matchesReceipt, unsent, none]
  | sent found apart prior =>
    simp only [OutboxBubble.matchesReceipt, found, prior]
    simp [or_comm, eq_comm (b := messageId)]

end

theorem remembers_step (id : String) (state : OutboxStore × List String) (outcome : Outcome)
    (remembers : ∃ bubble, state.1.get id = some bubble ∧ Remembers bubble state.2)
    (distinct : Distinct state outcome) : ∃ bubble,
      (step id state outcome).1.get id = some bubble ∧
        Remembers bubble (step id state outcome).2 := by
  obtain ⟨bubble, found, known⟩ := remembers
  simp only [step, get_recordSendOutcome, found]
  by_cases own : outcome.id = id
  · rw [if_pos own]
    by_cases closed : bubble.status.isTerminal = true
    · exact ⟨bubble, by simp [closed], by simpa [closed] using known⟩
    · exact ⟨_, rfl, by simpa [own, closed] using known.attempted distinct outcome.nowMs⟩
  · exact ⟨bubble, by rw [if_neg own], by simpa [own] using known⟩

theorem receiptTarget_of_alone {store : OutboxStore} {id : String}
    (found : store.get id = some bubble) (hit : bubble.matchesReceipt messageId = true)
    (alone : ∀ other, store.get other.id = some other → other.id ≠ id →
      other.matchesReceipt messageId = false) : store.receiptTarget messageId = some bubble := by
  cases target : store.receiptTarget messageId with
  | none =>
    exact absurd hit (List.find?_eq_none.mp target bubble (Table.find?_eq_some.mp found).1)
  | some other =>
    obtain ⟨there, matched⟩ := get_receiptTarget target
    by_cases same : other.id = id
    · rw [← there, same, found]
    · rw [alone other there same] at matched
      cases matched

/-- After any outcomes with distinct message ids a receipt belongs to the bubble exactly if it is
for the last accepted id or one of the eight before it. Such a receipt closes the bubble if no other
bubble knows the id, and one for an id that was not accepted for the bubble leaves it alone. -/
theorem receipt_matches_recent (store : OutboxStore) (bubble : OutboxBubble)
    (queued : store.get bubble.id = some bubble) (unsent : bubble.messageId = none)
    (none : bubble.priorMessageIds = []) (outcomes : List Outcome)
    (distinct : Meets (step bubble.id) Distinct (store, []) outcomes) :
    let final := run (step bubble.id) (store, []) outcomes
    ∃ last, final.1.get bubble.id = some last ∧ ∀ messageId,
      (last.matchesReceipt messageId = true ↔
        messageId ∈ final.2.rtake (priorMessageIdCap + 1)) ∧
      ((∀ other, final.1.get other.id = some other → other.id ≠ bubble.id →
          other.matchesReceipt messageId = false) →
        last.matchesReceipt messageId = true → ∀ receivedAtMs fault,
          (final.1.markDelivered messageId receivedAtMs fault).2.get bubble.id =
            some (last.delivered receivedAtMs)) ∧
      (messageId ∉ final.2 → ∀ receivedAtMs fault,
        (final.1.markDelivered messageId receivedAtMs fault).2.get bubble.id = some last) := by
  obtain ⟨last, found, known⟩ := run_invariant (fun state => ∃ bubble', state.1.get bubble.id =
    some bubble' ∧ Remembers bubble' state.2) (remembers_step bubble.id) outcomes (store, [])
    ⟨bubble, queued, .fresh unsent none⟩ distinct
  refine ⟨last, found, fun messageId => ⟨known.matches_iff, ?_, ?_⟩⟩
  · intro alone hit receivedAtMs fault
    rcases markDelivered_cases found messageId receivedAtMs fault with ⟨_, closed⟩ | ⟨missed, _⟩
    · exact closed
    · exact absurd (receiptTarget_of_alone found hit alone) missed
  · intro other receivedAtMs fault
    rcases markDelivered_cases found messageId receivedAtMs fault with ⟨hit, _⟩ | ⟨_, kept⟩
    · exact absurd (List.mem_of_mem_drop (known.matches_iff.mp (get_receiptTarget hit).2)) other
    · exact kept

theorem superseded_id_matches :
    let store := (OutboxStore.load none).upsert (.queued "b" "p" "" 0) false
    let outcomes : List Outcome :=
      [⟨"b", .ok (some "m"), 1, false⟩, ⟨"b", .ok (some "n"), 2, false⟩]
    Meets (step "b") Distinct (store, []) outcomes ∧
      ∃ last, (run (step "b") (store, []) outcomes).1.get "b" = some last ∧
        last.matchesReceipt "m" = true := by
  intro store outcomes
  have distinct : Meets (step "b") Distinct (store, []) outcomes := by decide +kernel
  obtain ⟨last, found, receipts⟩ := receipt_matches_recent store (.queued "b" "p" "" 0) rfl rfl rfl
    outcomes distinct
  exact ⟨distinct, last, found, (receipts "m").1.mpr (by decide +kernel)⟩

end Fetchit.Outbox.Resends
