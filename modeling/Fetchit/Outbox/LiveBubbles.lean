import Fetchit.Outbox.Driver

/-! Whether what a flush sends is still to be sent. A flush picks its bubbles once and then sends
their copies one after another. What it sends is live as long as nobody removes, closes or accepts
a bubble between the moment it is claimed and the moment its own send starts. -/
namespace Fetchit.Outbox.LiveBubbles
open Lib Lib.Run Chat OutboxStore Outbox.System

def Waits (system : System) (id : String) : Prop :=
  ∃ task ∈ system.tasks, ∃ bubble ∈ task.waiting, bubble.id = id

def Live (store : OutboxStore) (id : String) : Prop :=
  ∃ bubble, store.get id = some bubble ∧ bubble.isRetryable = true

def starts (system : System) : Event → Option OutboxBubble
  | .turn turn =>
    match system.tasks[turn.task]? with
    | some (.connecting _ current _) => some current
    | _ => none
  | _ => none

/-- No bubble that a flush has yet to send is closed, removed, dropped or given an outcome. -/
def Untouched (system : System) : Event → Prop
  | .receipt messageId _ _ =>
    ∀ bubble, system.store.receiptTarget messageId = some bubble → ¬Waits system bubble.id
  | .remove id _ => ¬Waits system id
  | .dropPeers peers _ =>
    ∀ bubble ∈ system.store.snapshot, peers.contains bubble.peer = true → ¬Waits system bubble.id
  | .turn turn =>
    match system.tasks[turn.task]? with
    | some (.sent _ current _ _) => ¬Waits system current.id
    | some (.dmSent bubble _) => ¬Waits system bubble.id
    | _ => True
  | _ => True

def AllLive (system : System) : Prop := ∀ id, Waits system id → Live system.store id

variable {system : System} {store : OutboxStore} {id : String} {bubble : OutboxBubble}

theorem AllLive.mono (live : AllLive system) (fewer : ∀ id, Waits after id → Waits system id)
    (kept : ∀ id, Waits system id → Live system.store id → Live after.store id) :
    AllLive after := by
  intro id waits
  exact kept id (fewer id waits) (live id (fewer id waits))

theorem AllLive.withStore (live : AllLive system)
    (kept : ∀ id, Waits system id → Live system.store id → Live store id) :
    AllLive (system.withStore store) :=
  AllLive.mono live (fun _ waits => waits) kept

theorem AllLive.spawn (live : AllLive system) (idle : task.waiting = []) :
    AllLive (system.spawn task) := by
  refine AllLive.mono live ?_ (fun _ _ still => still)
  rintro id ⟨other, mem, bubble, waits, rfl⟩
  rcases List.mem_append.mp mem with old | new
  · exact ⟨other, old, bubble, waits, rfl⟩
  · rw [List.mem_singleton.mp new, idle] at waits
    exact absurd waits List.not_mem_nil

theorem live_of_get (live : Live store id)
    (same : after.get id = store.get id) : Live after id := by
  obtain ⟨bubble, found, retryable⟩ := live
  exact ⟨bubble, same.trans found, retryable⟩

theorem live_upsert (fault : Bool) (retryable : bubble.isRetryable = true) (live : Live store id) :
    Live (store.upsert bubble fault) id := by
  by_cases same : bubble.id = id
  · exact ⟨bubble, by rw [get_upsert, if_pos same], retryable⟩
  · exact live_of_get live (by rw [get_upsert, if_neg same])

theorem live_finish (live : Live store id) (apart : bubble.id ≠ id) :
    Live (finish store bubble result now fault) id := by
  refine live_of_get live ?_
  change (store.recordSendOutcome bubble.id result now fault).2.get id = store.get id
  rw [get_recordSendOutcome, if_neg apart]

theorem waits_set {drivers : List Driver}
    (waits : Waits ⟨store, drivers, system.tasks.set index next⟩ id) :
    Waits system id ∨ ∃ bubble ∈ next.waiting, bubble.id = id := by
  obtain ⟨other, mem, bubble, listed, rfl⟩ := waits
  rcases List.mem_or_eq_of_mem_set mem with old | rfl
  · exact .inl ⟨other, old, bubble, listed, rfl⟩
  · exact .inr ⟨bubble, listed, rfl⟩

theorem not_waits_of_finishing (untouched : Untouched system (.turn turn))
    (found : system.tasks[turn.task]? = some task) (finishing : task.finishing = some bubble) :
    ¬Waits system bubble.id := by
  simp only [Untouched, found] at untouched
  cases task <;> cases finishing <;> exact untouched

theorem AllLive.turn {turn : Turn} (live : AllLive system)
    (untouched : Untouched system (.turn turn)) : AllLive (system.takeTurn turn) := by
  cases found : system.tasks[turn.task]? with
  | none =>
    unfold takeTurn
    rw [found]
    exact live
  | some task =>
    obtain ⟨next, store, drivers, turned, taken⟩ := takeTurn_of_found found
    rw [taken]
    -- the task goes on with some of what it was waiting for
    have fewer (waiting : next.waiting ⊆ task.waiting) (id : String)
        (waits : Waits ⟨store, drivers, system.tasks.set turn.task next⟩ id) :
        Waits system id := by
      rcases waits_set waits with old | ⟨bubble, listed, rfl⟩
      · exact old
      · exact ⟨task, List.mem_of_getElem? found, bubble, waiting listed, rfl⟩
    cases turned with
    | claims flush =>
      intro id waits
      rcases waits_set waits with old | ⟨bubble, listed, rfl⟩
      · exact live_of_get (live id old) (get_claimAll ..)
      · have picked := (sublist_claimAll ..).subset listed
        obtain ⟨there, chosen⟩ := List.mem_filter.mp picked
        rw [Bool.and_eq_true] at chosen
        exact ⟨bubble, (get_claimAll ..).trans (get_of_mem there),
          Eligibility.retryable_of_accepts chosen.2⟩
    | finishes result now fault finishing held waiting =>
      refine AllLive.mono live (fewer waiting) fun id waits still => live_finish still ?_
      rintro rfl
      exact not_waits_of_finishing untouched found finishing waits
    | goesOn held waiting => exact AllLive.mono live (fewer waiting) fun _ _ still => still

theorem AllLive.step (live : AllLive system) (untouched : Untouched system event) :
    AllLive (system.step event) := by
  cases event with
  | enqueueDm id peer body attachment replyToMessageId now fault =>
    unfold System.step System.enqueueDm
    dsimp only
    split
    · exact live
    · refine AllLive.spawn (live.withStore ?_) rfl
      exact fun _ _ still => live_upsert fault rfl still
  | enqueueGroup id peer body group now fault =>
    exact live.withStore fun _ _ still => live_upsert fault rfl still
  | presence driver peer online now =>
    unfold System.step System.onPresence
    dsimp only
    split
    · exact live
    · split
      · refine AllLive.spawn ?_ (waiting_beginFlush ..)
        exact live
      · exact live
  | flushPeer | flushAll => exact live.spawn (waiting_beginFlush ..)
  | flushDue driver now => exact live.spawn rfl
  | sweepStalled driver now =>
    refine AllLive.spawn (live.withStore ?_) (waiting_beginFlush ..)
    exact fun _ _ still => still
  | startDriver => exact AllLive.mono live (fun _ waits => waits) fun _ _ still => still
  | receipt messageId receivedAtMs fault =>
    refine live.withStore fun id waits still => live_of_get still ?_
    rw [get_markDelivered]
    refine if_neg fun matched => ?_
    obtain ⟨target, hit, named⟩ := (Option.any_eq_true _ _).mp matched
    exact untouched target hit (eq_of_beq named ▸ waits)
  | remove id fault =>
    refine live.withStore fun query waits still => live_of_get still ?_
    rw [get_remove]
    refine if_neg ?_
    rintro rfl
    exact untouched waits
  | dropPeers peers fault =>
    refine live.withStore fun id waits still => live_of_get still ?_
    obtain ⟨bubble, found, _⟩ := still
    rw [get_dropBubblesForPeers, found]
    by_contra dropped
    obtain ⟨mem, named⟩ := Table.find?_eq_some.mp found
    exact untouched bubble mem (by simpa using dropped) (named ▸ waits)
  | turn turn => exact live.turn untouched
  | abort task =>
    refine AllLive.mono live ?_ fun _ _ still => still
    rintro id ⟨other, mem, bubble, listed, rfl⟩
    rcases List.mem_or_eq_of_mem_set mem with old | rfl
    · exact ⟨other, old, bubble, listed, rfl⟩
    · exact absurd listed List.not_mem_nil

/-- While nobody touches what a flush has yet to send, every copy that it hands to the transport is
one of a bubble that is in the store and is to be sent. -/
theorem flush_sends_live_bubbles (store : OutboxStore) (events : List Event)
    (untouched : Meets step Untouched (.boot store) events) (event : Event) (bubble : OutboxBubble)
    (started : starts (run step (.boot store) events) event = some bubble) :
    ∃ stored, (run step (.boot store) events).store.get bubble.id = some stored ∧
      stored.isRetryable = true := by
  have live : AllLive (run step (.boot store) events) := by
    refine run_invariant AllLive (fun _ _ held meets => held.step meets) events _ ?_ untouched
    rintro id ⟨task, mem, _⟩
    exact absurd mem List.not_mem_nil
  unfold starts at started
  split at started
  · split at started
    · rename_i flush current rest found
      cases started
      exact live bubble.id ⟨_, List.mem_of_getElem? found, bubble, List.mem_cons_self, rfl⟩
    · cases started
  · cases started

/-! One direct message to the peer `p`, which a relay has accepted under the id `m`. -/

def reclaimed : List Event :=
  [.enqueueDm "b" "p" "" none none 1 false, turnOf 0, turnOf 0, turnOf 0,
    .startDriver, .flushPeer 0 "p" 2, turnOf 1, turnOf 1]

theorem reclaimed_is_live :
    Meets step Untouched (.boot newStore) reclaimed ∧
    ∃ bubble, starts (run step (.boot newStore) reclaimed) (turnOf 1) = some bubble ∧
      ∃ stored, (run step (.boot newStore) reclaimed).store.get bubble.id = some stored ∧
        stored.isRetryable = true := by
  have alone : ∀ id, ¬Waits (run step (.boot newStore) (reclaimed.take 3)) id := by
    rintro id ⟨task, mem, bubble, listed, _⟩
    have waiting : ∀ task ∈ (run step (.boot newStore) (reclaimed.take 3)).tasks,
        task.waiting = [] := by decide +kernel
    rw [waiting task mem] at listed
    exact absurd listed List.not_mem_nil
  have untouched : Meets step Untouched (.boot newStore) reclaimed :=
    ⟨trivial, trivial, trivial, alone _, trivial, trivial, trivial, trivial, trivial⟩
  have started : starts (run step (.boot newStore) reclaimed) (turnOf 1) =
      some { OutboxBubble.queued "b" "p" "" 1 with
        status := .sent, messageId := some "m", stateChangedAtMs := 0 } := by
    decide +kernel
  exact ⟨untouched, _, started, flush_sends_live_bubbles newStore reclaimed untouched _ _ started⟩

/-- The device is revoked, or the receipt arrives, after the flush has claimed the bubble. The copy
is sent all the same. -/
theorem stale_copy_sent :
    let dropped := run step (.boot newStore) (reclaimed ++ [.dropPeers ["p"] false])
    let receipted := run step (.boot newStore) (reclaimed ++ [.receipt "m" 3 false])
    ((starts dropped (turnOf 1)).map (·.id) = some "b" ∧ dropped.store.get "b" = none ∧
      (dropped.step (turnOf 1)).inProgress = ["b"]) ∧
    (starts receipted (turnOf 1)).map (·.id) = some "b" ∧
      (receipted.store.get "b").map (·.status) = some .delivered ∧
      (receipted.step (turnOf 1)).inProgress = ["b"] := by
  decide +kernel

end Fetchit.Outbox.LiveBubbles
