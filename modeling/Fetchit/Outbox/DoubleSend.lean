import Fetchit.Outbox.Driver

/-! At most one send of a bubble at a time. The claims of the running tasks are exclusive as long
as no claim of a running task is dropped: by the start of another driver, or by a sweep that takes
a slow attempt for a dead one. -/
namespace Fetchit.Outbox.DoubleSend
open Lib Lib.Run Chat OutboxStore Outbox.System

def Marked (store : OutboxStore) (id : String) : Prop := store.inflight.lookup id ≠ none

/-- No claim of a running task is dropped, and a new bubble has a new id. -/
def Careful (system : System) : Event → Prop
  | .enqueueDm id .. => id ∉ system.held
  | .startDriver => system.held = []
  | .sweepStalled _ now => ∀ id ∈ system.store.stalled now stalledClaimMs, id ∉ system.held
  | _ => True

instance (system : System) (event : Event) : Decidable (Careful system event) := by
  unfold Careful
  split <;> infer_instance

def Guarded (system : System) : Prop := Exclusive (Marked system.store) system.held

variable {store : OutboxStore} {system : System}

theorem marked_claimAll {id : String}
    (marked : Marked store id ∨ id ∈ (claimAll now candidates store).1.map (·.id)) :
    Marked (claimAll now candidates store).2 id := by
  unfold Marked
  rw [lookup_claimAll]
  split
  · exact Option.some_ne_none now
  · rename_i absent
    rcases marked with before | new
    · exact before
    · exact absurd (((sublist_claimAll now candidates store).map _).subset new) absent

theorem marked_finish {id : String} (marked : Marked store id) (apart : id ≠ bubble.id) :
    Marked (finish store bubble result now fault) id := by
  unfold Marked finish clearInflight
  rw [AList.lookup_erase_ne apart, inflight_recordSendOutcome]
  exact marked

section
variable (guarded : Guarded system)
include guarded

/-- A turn keeps the claims exclusive: only what was free is claimed, and only the own claim is
given back. -/
theorem Guarded.turn (turn : Turn) :
    Guarded (system.takeTurn turn) := by
  cases found : system.tasks[turn.task]? with
  | none =>
    unfold takeTurn
    rw [found]
    exact guarded
  | some task =>
    obtain ⟨next, store, drivers, turned, taken⟩ := takeTurn_of_found found
    rw [taken]
    obtain ⟨others, before, after⟩ := perm_flatMap_set Task.held found
    have exclusive : Exclusive (Marked system.store) (task.held ++ others) := guarded.perm before
    refine Exclusive.perm ?_ (after next).symm
    cases turned with
    | claims flush =>
      obtain ⟨distinct, free⟩ := free_of_claimAll flush.now (flush.candidates system.store)
        system.store
      exact exclusive.claim distinct (fun id mem => not_not_intro (free id mem))
        fun id => marked_claimAll
    | @finishes _ _ bubble result now fault finishing held waiting =>
      rw [held] at exclusive
      have own : Exclusive (Marked system.store) ([bubble.id] ++ (next.held ++ others)) := exclusive
      exact own.release fun id marked apart => marked_finish marked (by simpa using apart)
    | goesOn held waiting =>
      rw [held]
      exact exclusive

theorem Guarded.spawn (idle : task.held = []) :
    Guarded (system.spawn task) := by
  have same : (system.spawn task).held = system.held := by
    rw [held_spawn, idle, List.append_nil]
  unfold Guarded
  rw [same]
  exact guarded

theorem Guarded.withStore (same : store.inflight = system.store.inflight) :
    Guarded (system.withStore store) := by
  refine Exclusive.keep guarded fun id _ marked => ?_
  unfold Marked System.withStore
  rw [same]
  exact marked

theorem Guarded.enqueueDm (bubble : OutboxBubble)
    (fresh : bubble.id ∉ system.held) (now : Nat) (fault : Bool) :
    Guarded (system.enqueueDm bubble now fault) := by
  unfold System.enqueueDm
  split
  · exact guarded
  · unfold Guarded
    rw [held_spawn]
    have others : Exclusive
        (fun id => Marked system.store id ∧ id ≠ bubble.id) system.held := by
      refine guarded.keep fun id mem marked => ⟨marked, ?_⟩
      rintro rfl
      exact fresh mem
    refine (others.claim (List.nodup_singleton bubble.id) ?_ ?_).perm List.perm_append_comm
    · intro id mem
      rw [List.mem_singleton.mp mem]
      exact fun unmarked => unmarked.2 rfl
    · intro id marked
      unfold Marked System.spawn System.withStore tryMarkInflight
      rw [inflight_upsert]
      by_cases same : id = bubble.id
      · subst same
        rw [AList.lookup_insert]
        exact Option.some_ne_none now
      · rw [AList.lookup_insert_ne same]
        rcases marked with before | new
        · exact before.1
        · exact absurd (List.mem_singleton.mp new) same

theorem Guarded.step (careful : Careful system event) :
    Guarded (system.step event) := by
  cases event with
  | enqueueDm id peer body attachment replyToMessageId now fault =>
    exact guarded.enqueueDm ((OutboxBubble.queued id peer body now).withDmPayload attachment
      replyToMessageId) careful now fault
  | enqueueGroup id peer body group now fault =>
    exact guarded.withStore (inflight_upsert ..)
  | presence driver peer online now =>
    unfold System.step System.onPresence
    dsimp only
    split
    · exact guarded
    · split
      · refine Guarded.spawn ?_ (held_beginFlush ..)
        exact guarded
      · exact guarded
  | flushPeer | flushAll => exact guarded.spawn (held_beginFlush ..)
  | flushDue driver now => exact guarded.spawn rfl
  | sweepStalled driver now =>
    refine Guarded.spawn ?_ (held_beginFlush ..)
    refine Exclusive.keep guarded fun id mem marked => ?_
    unfold Marked System.withStore
    rw [lookup_clearStalledInflight, if_neg fun stalled => careful id stalled mem]
    exact marked
  | startDriver =>
    have idle : (system.step .startDriver).held = [] := careful
    unfold Guarded
    rw [idle]
    exact Exclusive.nil
  | receipt messageId receivedAtMs fault =>
    exact guarded.withStore (inflight_markDelivered ..)
  | remove id fault => exact guarded.withStore (inflight_remove ..)
  | dropPeers peers fault => exact guarded.withStore (inflight_dropBubblesForPeers ..)
  | turn turn => exact guarded.turn turn
  | abort task =>
    unfold System.step
    dsimp only
    cases found : system.tasks[task]? with
    | none =>
      rw [List.set_eq_of_length_le (List.getElem?_eq_none_iff.mp found)]
      exact guarded
    | some victim =>
      obtain ⟨others, before, after⟩ := perm_flatMap_set Task.held found
      have exclusive : Exclusive (Marked system.store) (victim.held ++ others) :=
        guarded.perm before
      have lost : Exclusive (Marked system.store) others :=
        exclusive.release fun id marked _ => marked
      exact lost.perm (after .done).symm

end

theorem sublist_inProgress (tasks : List Task) :
    List.Sublist (tasks.filterMap Task.inProgress) (tasks.flatMap Task.held) := by
  induction tasks with
  | nil => exact List.Sublist.refl _
  | cons task tasks ih =>
    have head : List.Sublist task.inProgress.toList task.held := by
      cases task <;> simp [Task.inProgress, Task.held]
    have split : (task :: tasks).filterMap Task.inProgress =
        task.inProgress.toList ++ tasks.filterMap Task.inProgress := by
      cases progress : task.inProgress <;> simp [progress]
    rw [split]
    exact head.append ih

/-- While no claim of a running task is dropped, no bubble is sent twice at a time. -/
theorem one_send_at_a_time (store : OutboxStore) (events : List Event)
    (careful : Meets step Careful (.boot store) events) (id : String) :
    (run step (.boot store) events).inProgress.count id ≤ 1 := by
  have guarded : Guarded (run step (.boot store) events) :=
    run_invariant Guarded (fun _ _ held meets => held.step meets) events _ Exclusive.nil careful
  apply List.nodup_iff_count_le_one.mp
  exact guarded.nodup.sublist (sublist_inProgress _)

/-! One direct message to the peer `p`. -/

def firstSend : List Event := [.enqueueDm "b" "p" "" none none 0 false, turnOf 0]

/-- A presence flush during the initial send claims nothing. -/
theorem flush_waits_for_first_send :
    Meets step Careful (.boot newStore)
      (.startDriver :: firstSend ++ [.presence 0 "p" true 1, turnOf 1, turnOf 1]) ∧
    (run step (.boot newStore)
      (.startDriver :: firstSend ++ [.presence 0 "p" true 1, turnOf 1, turnOf 1])).inProgress.count
        "b" ≤ 1 := by
  have careful : Meets step Careful (.boot newStore)
      (.startDriver :: firstSend ++ [.presence 0 "p" true 1, turnOf 1, turnOf 1]) := by
    decide +kernel
  exact ⟨careful, one_send_at_a_time newStore _ careful "b"⟩

/-- The start of a driver drops the claim of the initial send, and the next flush sends the bubble
a second time. A sweep does the same once the initial send has taken a quarter of an hour. -/
theorem claim_dropped_during_send :
    (run step (.boot newStore) (firstSend ++
      [.startDriver, .flushPeer 0 "p" 1, turnOf 1, turnOf 1, turnOf 1])).inProgress =
        ["b", "b"] ∧
    (run step (.boot newStore) (.startDriver :: firstSend ++
      [.sweepStalled 0 stalledClaimMs, turnOf 1, turnOf 1, turnOf 1])).inProgress =
        ["b", "b"] := by
  decide +kernel

end Fetchit.Outbox.DoubleSend
