import Fetchit.Outbox.Driver

/-! The claim of a task that died. The sweep releases a claim by its age, and every attempt to
claim the bubble again sets the age back, also one that is refused. -/
namespace Fetchit.Outbox.StalledClaims
open Lib Lib.Run Chat OutboxStore

/-- A claim that no running task holds, on a bubble that is still to be delivered. -/
structure Orphaned (id : String) (claimedAt : Nat) (system : System) : Prop where
  claimed : system.store.inflight.lookup id = some claimedAt
  live : ∃ bubble, system.store.get id = some bubble ∧ bubble.status.isTerminal = false
  unheld : id ∉ system.held

def IsCall : Event → Prop
  | .presence .. | .flushPeer .. | .flushAll .. | .flushDue .. | .sweepStalled .. | .turn _ => True
  | _ => False

def Unprobed (id : String) (system : System) : Event → Prop
  | .turn turn =>
    match system.tasks[turn.task]? with
    | some (.gate flush) => id ∉ (flush.candidates system.store).map (·.id)
    | _ => True
  | _ => True

def Releases (id : String) (system : System) : Event → Prop
  | .sweepStalled _ now =>
    id ∈ system.store.stalled now stalledClaimMs ∧
      (system.store.clearStalledInflight now stalledClaimMs).2.inflight.lookup id = none
  | _ => False

variable {id : String} {claimedAt : Nat} {system : System}

theorem Orphaned.spawn (orphaned : Orphaned id claimedAt system) (idle : task.held = []) :
    Orphaned id claimedAt (system.spawn task) := by
  refine ⟨orphaned.claimed, orphaned.live, ?_⟩
  rw [held_spawn, idle, List.append_nil]
  exact orphaned.unheld

theorem Orphaned.of_store (orphaned : Orphaned id claimedAt system)
    (claims : after.store.inflight.lookup id = system.store.inflight.lookup id)
    (bubbles : after.store.get id = system.store.get id)
    (held : id ∈ after.held → id ∈ system.held) : Orphaned id claimedAt after := by
  refine ⟨claims.trans orphaned.claimed, ?_, fun mem => orphaned.unheld (held mem)⟩
  obtain ⟨bubble, found, open_⟩ := orphaned.live
  exact ⟨bubble, bubbles.trans found, open_⟩

theorem lookup_finish (apart : id ≠ bubble.id) :
    (finish store bubble result now fault).inflight.lookup id = store.inflight.lookup id ∧
      (finish store bubble result now fault).get id = store.get id := by
  constructor
  · unfold finish clearInflight
    rw [AList.lookup_erase_ne apart, inflight_recordSendOutcome]
  · change (store.recordSendOutcome bubble.id result now fault).2.get id = store.get id
    rw [get_recordSendOutcome, if_neg (Ne.symm apart)]

theorem Orphaned.turn {turn : Turn} (orphaned : Orphaned id claimedAt system)
    (unprobed : Unprobed id system (.turn turn)) :
    Orphaned id claimedAt (system.takeTurn turn) := by
  cases found : system.tasks[turn.task]? with
  | none =>
    unfold System.takeTurn
    rw [found]
    exact orphaned
  | some task =>
    obtain ⟨next, store, drivers, turned, taken⟩ := System.takeTurn_of_found found
    rw [taken]
    obtain ⟨others, before, after⟩ := perm_flatMap_set Task.held found
    -- what the task holds afterwards it held before
    have fewer (held : id ∈ next.held → id ∈ task.held)
        (mem : id ∈ System.held ⟨store, drivers, system.tasks.set turn.task next⟩) :
        id ∈ system.held := by
      apply before.mem_iff.mpr
      rcases List.mem_append.mp ((after next).mem_iff.mp mem) with own | other
      · exact List.mem_append_left _ (held own)
      · exact List.mem_append_right _ other
    cases turned with
    | claims flush =>
      simp only [Unprobed, found] at unprobed
      refine orphaned.of_store ((lookup_claimAll ..).trans (if_neg unprobed)) (get_claimAll ..) ?_
      apply fewer
      intro mem
      exact absurd (((sublist_claimAll ..).map _).subset mem) unprobed
    | @finishes _ _ bubble result now fault finishing held waiting =>
      have other : id ≠ bubble.id := by
        rintro rfl
        apply orphaned.unheld
        apply before.mem_iff.mpr
        rw [held]
        exact List.mem_cons_self
      refine orphaned.of_store (lookup_finish other).1 (lookup_finish other).2 (fewer ?_)
      intro mem
      rw [held]
      exact List.mem_cons_of_mem _ mem
    | goesOn held waiting => exact orphaned.of_store rfl rfl (fewer fun mem => held ▸ mem)

/-- A call that does not probe the bubble leaves the claim as it is, or is a sweep that releases
it. -/
theorem Orphaned.step (orphaned : Orphaned id claimedAt system)
    (call : IsCall event) (unprobed : Unprobed id system event) :
    Releases id system event ∨ Orphaned id claimedAt (system.step event) := by
  cases event with
  | presence driver peer online now =>
    right
    unfold System.step System.onPresence
    dsimp only
    split
    · exact orphaned
    · split
      · refine Orphaned.spawn ?_ (held_beginFlush ..)
        exact orphaned.of_store rfl rfl fun mem => mem
      · exact orphaned.of_store rfl rfl fun mem => mem
  | flushPeer | flushAll => exact .inr (orphaned.spawn (held_beginFlush ..))
  | flushDue driver now => exact .inr (orphaned.spawn rfl)
  | sweepStalled driver now =>
    by_cases stalled : id ∈ system.store.stalled now stalledClaimMs
    · left
      refine ⟨stalled, ?_⟩
      rw [lookup_clearStalledInflight, if_pos stalled]
    · right
      refine Orphaned.spawn ?_ (held_beginFlush ..)
      refine orphaned.of_store ?_ rfl fun mem => mem
      change (clearStalledInflight ..).2.inflight.lookup id = _
      rw [lookup_clearStalledInflight, if_neg stalled]
  | turn turn => exact .inr (orphaned.turn unprobed)
  | enqueueDm | enqueueGroup | startDriver | receipt | remove | dropPeers | abort => exact call.elim

theorem Orphaned.run :
    ∀ {system : System}, Orphaned id claimedAt system → (∀ event ∈ calls, IsCall event) →
      Meets System.step (Unprobed id) system calls →
        (∃ early event late, calls = early ++ event :: late ∧
          Releases id (run System.step system early) event) ∨
        Orphaned id claimedAt (run System.step system calls) := by
  induction calls with
  | nil =>
    intro system orphaned _ _
    exact .inr orphaned
  | cons event calls ih =>
    intro system orphaned only unprobed
    rcases orphaned.step (only event List.mem_cons_self) unprobed.1 with released | still
    · exact .inl ⟨[], event, calls, rfl, released⟩
    · rcases ih still (fun later mem => only later (List.mem_cons_of_mem _ mem)) unprobed.2 with
        ⟨early, sweep, late, split, released⟩ | last
      · exact .inl ⟨event :: early, sweep, late, by rw [split]; rfl, released⟩
      · exact .inr last

/-- If no flush tries to claim the bubble meanwhile, the claim of a task that died is released no
later than by the first sweep a quarter of an hour after. -/
theorem orphaned_claim_released (system : System) (id : String) (claimedAt diedAt : Nat)
    (orphaned : Orphaned id claimedAt system) (claimedBefore : claimedAt ≤ diedAt)
    (calls : List Event) (only : ∀ event ∈ calls, IsCall event)
    (unprobed : Meets System.step (Unprobed id) system calls) (driver now : Nat)
    (late : diedAt + stalledClaimMs ≤ now) :
    ∃ early event later, calls ++ [.sweepStalled driver now] = early ++ event :: later ∧
      Releases id (run System.step system early) event := by
  rcases orphaned.run only unprobed with ⟨early, event, later, split, released⟩ | still
  · refine ⟨early, event, later ++ [.sweepStalled driver now], ?_, released⟩
    rw [split, List.append_assoc, List.cons_append]
  · obtain ⟨bubble, found, open_⟩ := still.live
    have stalled : id ∈ (run System.step system calls).store.stalled now stalledClaimMs := by
      rw [mem_stalled]
      exact ⟨claimedAt, bubble, still.claimed, by omega, found, open_⟩
    refine ⟨calls, .sweepStalled driver now, [], rfl, stalled, ?_⟩
    rw [lookup_clearStalledInflight, if_pos stalled]

/-! The initial send of a direct message to `p` dies at once. -/

def diedSending : System :=
  run System.step (.boot newStore)
    [.startDriver, .enqueueDm "b" "p" "" none none 0 false, turnOf 0, .abort 0]

theorem orphaned_diedSending : Orphaned "b" 0 diedSending := by
  refine ⟨by decide +kernel, ⟨OutboxBubble.queued "b" "p" "" 0, ?_, rfl⟩, by decide +kernel⟩
  decide +kernel

theorem sweep_after_death_releases :
    ∃ early event later,
      [.flushPeer 0 "q" 1, turnOf 1] ++ [.sweepStalled 0 stalledClaimMs] =
        early ++ event :: later ∧
      Releases "b" (run System.step diedSending early) event := by
  have unprobed : Meets System.step (Unprobed "b") diedSending
      [.flushPeer 0 "q" 1, turnOf 1] := by
    refine ⟨trivial, ?_, trivial⟩
    change "b" ∉ (Flush.candidates ⟨0, .retryable, "q", 1, [], false⟩
      (diedSending.step (.flushPeer 0 "q" 1)).store).map (·.id)
    decide +kernel
  have only : ∀ event ∈ [.flushPeer 0 "q" 1, turnOf 1], IsCall event := by
    intro event mem
    rcases List.mem_cons.mp mem with rfl | mem
    · trivial
    · rw [List.mem_singleton.mp mem]
      trivial
  exact orphaned_claim_released diedSending "b" 0 0 orphaned_diedSending (Nat.le_refl 0) _ only
    unprobed 0 stalledClaimMs (by decide)

/-- A flush that is refused a minute before the sweep is due puts the sweep off. -/
theorem refused_claim_postpones_sweep :
    let probed := run System.step diedSending
      [.flushPeer 0 "p" (14 * 60 * 1000), turnOf 1, turnOf 1]
    probed.held = [] ∧ probed.store.inflight.lookup "b" = some (14 * 60 * 1000) ∧
      probed.store.stalled stalledClaimMs stalledClaimMs = [] ∧
      (probed.step (.sweepStalled 0 stalledClaimMs)).store.inflight.lookup "b" =
        some (14 * 60 * 1000) := by
  decide +kernel

end Fetchit.Outbox.StalledClaims
