import Fetchit.Outbox.Driver

/-! The loop that runs a driver. It opens the stream of events and then waits for the stream, the
sweep interval or a manual retry; while the stream cannot be opened it waits for the retry interval
or the end of the pause. A call of the driver is awaited before the loop waits again. -/
namespace Fetchit.Outbox.RunLoop
open Chat

def minBackoffMs : Nat := 1000

def maxBackoffMs : Nat := 60 * 1000

def sweepIntervalMs : Nat := 300 * 1000

def retryIntervalMs : Nat := 5 * 1000

/-- The two places at which the loop selects among what may happen next. -/
inductive Wait where
  | down (deadline : Nat)
  | streaming
  deriving DecidableEq

inductive Phase where
  | opening
  | waiting (wait : Wait)
  | busy (wait : Wait)
  deriving DecidableEq

/-- The times at which the intervals tick next, and whether a manual retry is pending. -/
structure Loop where
  phase : Phase
  backoff : Nat
  sweepDue : Nat
  retryDue : Nat
  kicked : Bool
  deriving DecidableEq

inductive Input where
  | opened
  | openFailed (now : Nat)
  | deadline (now : Nat)
  | retryTick (now : Nat)
  | presence (peer : String) (online : Bool) (now : Nat)
  | otherEvent
  | streamError
  | streamEnd
  | sweepTick (now : Nat)
  | retryOutbox
  | kick (now : Nat)
  | kickSenderDropped
  | finished

/-- The first tick of the sweep interval is consumed; that of the retry interval is kept. -/
def Loop.start (now : Nat) : Loop :=
  ⟨.opening, minBackoffMs, now + sweepIntervalMs, now, false⟩

/-- The loop after an input, and the call it makes; `none` if the loop does not take the input
where it is. The retry interval delays its next tick by the whole period, the sweep interval
catches up. -/
def Loop.fire (driver : Nat) (loop : Loop) : Input → Option (Loop × Option Event)
  | .opened =>
    if loop.phase = .opening then
      some ({ loop with phase := .waiting .streaming, backoff := minBackoffMs }, none)
    else none
  | .openFailed now =>
    if loop.phase = .opening then
      some ({ loop with phase := .waiting (.down (now + loop.backoff)) }, none)
    else none
  | .deadline now =>
    match loop.phase with
    | .waiting (.down deadline) =>
      if deadline ≤ now then
        some ({ loop with
          phase := .opening, backoff := min (loop.backoff * 2) maxBackoffMs }, none)
      else none
    | _ => none
  | .retryTick now =>
    match loop.phase with
    | .waiting (.down deadline) =>
      if loop.retryDue ≤ now then
        some ({ loop with
          phase := .busy (.down deadline), retryDue := now + retryIntervalMs },
          some (.flushDue driver now))
      else none
    | _ => none
  | .presence peer online now =>
    if loop.phase = .waiting .streaming then
      some ({ loop with phase := .busy .streaming }, some (.presence driver peer online now))
    else none
  | .otherEvent => if loop.phase = .waiting .streaming then some (loop, none) else none
  | .streamError | .streamEnd | .kickSenderDropped =>
    if loop.phase = .waiting .streaming then some ({ loop with phase := .opening }, none)
    else none
  | .sweepTick now =>
    if loop.phase = .waiting .streaming ∧ loop.sweepDue ≤ now then
      some ({ loop with
        phase := .busy .streaming, sweepDue := loop.sweepDue + sweepIntervalMs },
        some (.sweepStalled driver now))
    else none
  | .retryOutbox => some ({ loop with kicked := true }, none)
  | .kick now =>
    if loop.phase = .waiting .streaming ∧ loop.kicked = true then
      some ({ loop with phase := .busy .streaming, kicked := false }, some (.flushAll driver now))
    else none
  | .finished =>
    match loop.phase with
    | .busy wait => some ({ loop with phase := .waiting wait }, none)
    | _ => none

def Loop.run (driver : Nat) (loop : Loop) : List Input → Option (Loop × List Event)
  | [] => some (loop, [])
  | input :: inputs =>
    match loop.fire driver input with
    | none => none
    | some (next, call) =>
      match next.run driver inputs with
      | none => none
      | some (last, calls) => some (last, call.toList ++ calls)

/-! What a timed flush picks up. -/

theorem isDue_prune {state : Driver} (listed : bubble ∈ queued) (now : Nat) :
    (state.prune queued).isDue now bubble = state.isDue now bubble := by
  unfold Driver.isDue Driver.prune
  rw [lookup_foldl_erase, if_neg]
  intro forgotten
  have gone := (List.mem_filter.mp forgotten).2
  have kept : (queued.map (·.id)).contains bubble.id = true :=
    List.contains_iff_mem.mpr (List.mem_map_of_mem listed)
  rw [kept] at gone
  cases gone

variable {driver : Nat} {loop : Loop} {input : Input} {inputs : List Input}

theorem flushDue_serves {system : System} (known : system.drivers[driver]? = some state)
    (stored : bubble ∈ system.store.snapshot) (queued : bubble.isQueuedRetryable = true)
    (due : state.isDue now bubble = true) (turn : Turn) (own : turn.task = system.tasks.length) :
    ∃ first later,
      ((system.step (.flushDue driver now)).takeTurn turn).tasks[system.tasks.length]? =
        some (.gate ⟨driver, .queuedRetryable, first, now, later, false⟩) ∧
      bubble.peer ∈ first :: later := by
  let listed := system.store.snapshot.filter (·.isQueuedRetryable)
  have mem : bubble ∈ listed := List.mem_filter.mpr ⟨stored, queued⟩
  let peers := peersOf (listed.filter ((state.prune listed).isDue now))
  have served : bubble.peer ∈ peers := by
    apply List.mem_eraseDups.mpr
    apply List.mem_map_of_mem
    exact List.mem_filter.mpr ⟨mem, (isDue_prune mem now).trans due⟩
  have spawned : (system.step (.flushDue driver now)).tasks =
      system.tasks ++ [.due driver listed now] :=
    rfl
  have begun : ((system.step (.flushDue driver now)).takeTurn turn).tasks[system.tasks.length]? =
      some (beginFlush driver .queuedRetryable now false peers) := by
    unfold System.takeTurn
    rw [own, spawned, List.getElem?_concat_length]
    have drivers : (system.step (.flushDue driver now)).drivers[driver]? = some state := known
    simp only [Task.step, drivers]
    rw [List.getElem?_set_self (by simp)]
  rw [begun]
  cases shape : peers with
  | nil =>
    rw [shape] at served
    exact absurd served List.not_mem_nil
  | cons first later =>
    rw [shape] at served
    exact ⟨first, later, rfl, served⟩

/-! Runs of the loop. -/

theorem fire_retryDue (fired : loop.fire driver input = some (after, call)) :
    after.retryDue = loop.retryDue ∨
      ∃ flushedAt, call = some (.flushDue driver flushedAt) ∧
        after.retryDue = flushedAt + retryIntervalMs := by
  cases input with
  | retryTick now =>
    simp only [Loop.fire] at fired
    split at fired
    · split at fired
      · cases fired
        exact .inr ⟨now, rfl, rfl⟩
      · cases fired
    · cases fired
  | deadline now =>
    simp only [Loop.fire] at fired
    split at fired
    · split at fired
      · cases fired
        exact .inl rfl
      · cases fired
    · cases fired
  | finished =>
    simp only [Loop.fire] at fired
    split at fired
    · cases fired
      exact .inl rfl
    · cases fired
  | retryOutbox =>
    cases fired
    exact .inl rfl
  | opened | openFailed | presence | otherEvent | streamError | streamEnd | sweepTick | kick
  | kickSenderDropped =>
    simp only [Loop.fire] at fired
    split at fired
    · cases fired
      exact .inl rfl
    · cases fired

theorem run_cons (ran : loop.run driver (input :: inputs) = some (last, calls)) :
    ∃ next call rest, loop.fire driver input = some (next, call) ∧
      next.run driver inputs = some (last, rest) ∧ calls = call.toList ++ rest := by
  simp only [Loop.run] at ran
  split at ran
  · cases ran
  · rename_i next call fired
    split at ran
    · cases ran
    · rename_i last rest later
      cases ran
      exact ⟨next, call, rest, fired, later, rfl⟩

theorem run_retryDue :
    ∀ {loop last : Loop} {calls : List Event}, loop.run driver inputs = some (last, calls) →
      last.retryDue = loop.retryDue ∨
        ∃ flushedAt, .flushDue driver flushedAt ∈ calls ∧
          last.retryDue = flushedAt + retryIntervalMs := by
  induction inputs with
  | nil =>
    intro loop last calls ran
    cases ran
    exact .inl rfl
  | cons input inputs ih =>
    intro loop last calls ran
    obtain ⟨next, call, rest, fired, later, rfl⟩ := run_cons ran
    rcases ih later with same | ⟨flushedAt, made, ticks⟩
    · rcases fire_retryDue fired with unmoved | ⟨flushedAt, rfl, ticks⟩
      · exact .inl (same.trans unmoved)
      · exact .inr ⟨flushedAt, List.mem_append_left _ (List.mem_singleton_self _),
          same.trans ticks⟩
    · exact .inr ⟨flushedAt, List.mem_append_right _ made, ticks⟩

/-- While the stream cannot be opened, a tick of the retry interval is taken, at the latest one
period after the last timed flush, and the flush serves the peer of every queued bubble that is
due. -/
theorem retry_tick_serviced (driver startedAt : Nat) (inputs : List Input) (loop : Loop)
    (calls : List Event) (reached : (Loop.start startedAt).run driver inputs = some (loop, calls))
    (deadline : Nat) (down : loop.phase = .waiting (.down deadline)) (now : Nat)
    (ticks : loop.retryDue ≤ now) :
    (loop.retryDue = startedAt ∨
      ∃ flushedAt, .flushDue driver flushedAt ∈ calls ∧
        loop.retryDue = flushedAt + retryIntervalMs) ∧
    (∃ after, loop.fire driver (.retryTick now) = some (after, some (.flushDue driver now))) ∧
    ∀ (system : System) (state : Driver) (bubble : OutboxBubble) (turn : Turn),
      system.drivers[driver]? = some state → bubble ∈ system.store.snapshot →
      bubble.isQueuedRetryable = true → state.isDue now bubble = true →
      turn.task = system.tasks.length →
      ∃ first later,
        ((system.step (.flushDue driver now)).takeTurn turn).tasks[system.tasks.length]? =
          some (.gate ⟨driver, .queuedRetryable, first, now, later, false⟩) ∧
        bubble.peer ∈ first :: later := by
  refine ⟨run_retryDue reached, ?_, ?_⟩
  · simp only [Loop.fire, down]
    rw [if_pos ticks]
    exact ⟨_, rfl⟩
  · intro system state bubble turn known stored queued due own
    exact flushDue_serves known stored queued due turn own

theorem retry_tick_while_down :
    ∃ loop, (Loop.start 0).run 0 [.openFailed 0] = some (loop, []) ∧
      ∃ after, loop.fire 0 (.retryTick 0) = some (after, some (.flushDue 0 0)) := by
  refine ⟨⟨.waiting (.down 1000), 1000, 300000, 0, false⟩, rfl, ?_⟩
  exact (retry_tick_serviced 0 0 [.openFailed 0] _ [] rfl 1000 rfl 0 (Nat.le_refl 0)).2.1

/-! An open stream. -/

def keepsStream : Input → Bool
  | .streamError | .streamEnd | .kickSenderDropped => false
  | _ => true

def Streaming (loop : Loop) : Prop :=
  loop.phase = .waiting .streaming ∨ loop.phase = .busy .streaming

theorem fire_streaming (streaming : Streaming loop)
    (open_ : keepsStream input = true) (fired : loop.fire driver input = some (after, call)) :
    Streaming after ∧ ∀ now, call ≠ some (.flushDue driver now) := by
  cases input with
  | retryTick | deadline =>
    simp only [Loop.fire] at fired
    rcases streaming with waiting | busy
    · rw [waiting] at fired
      cases fired
    · rw [busy] at fired
      cases fired
  | finished =>
    simp only [Loop.fire] at fired
    rcases streaming with waiting | busy
    · rw [waiting] at fired
      cases fired
    · rw [busy] at fired
      cases fired
      exact ⟨.inl rfl, fun _ => by simp⟩
  | retryOutbox =>
    cases fired
    exact ⟨streaming, fun _ => by simp⟩
  | opened | openFailed =>
    simp only [Loop.fire] at fired
    split at fired
    · rename_i opening
      rcases streaming with waiting | busy
      · rw [waiting] at opening
        cases opening
      · rw [busy] at opening
        cases opening
    · cases fired
  | otherEvent =>
    simp only [Loop.fire] at fired
    split at fired
    · cases fired
      exact ⟨streaming, fun _ => by simp⟩
    · cases fired
  | presence | sweepTick | kick =>
    simp only [Loop.fire] at fired
    split at fired
    · cases fired
      exact ⟨.inr rfl, fun _ => by simp⟩
    · cases fired
  | streamError | streamEnd | kickSenderDropped => cases open_

theorem run_streaming :
    ∀ {loop last : Loop} {calls : List Event}, Streaming loop →
      (∀ input ∈ inputs, keepsStream input = true) →
      loop.run driver inputs = some (last, calls) → ∀ now, .flushDue driver now ∉ calls := by
  induction inputs with
  | nil =>
    intro loop last calls _ _ ran now
    cases ran
    exact List.not_mem_nil
  | cons input inputs ih =>
    intro loop last calls streaming open_ ran now made
    obtain ⟨next, call, rest, fired, later, rfl⟩ := run_cons ran
    obtain ⟨still, other⟩ := fire_streaming streaming (open_ input List.mem_cons_self) fired
    rcases List.mem_append.mp made with now_ | after
    · exact other now (Option.mem_toList.mp now_)
    · exact ih still (fun input mem => open_ input (List.mem_cons_of_mem _ mem)) later now after

/-- With the stream open the first tick of the retry interval is due and never taken, whatever the
stream, the sweeps and the manual retries do, until the stream closes. -/
theorem open_stream_starves_retry :
    ∃ loop, (Loop.start 0).run 0 [.opened] = some (loop, []) ∧
      loop.phase = .waiting .streaming ∧ loop.retryDue = 0 ∧
      (∀ now, loop.fire 0 (.retryTick now) = none) ∧
      ∀ inputs last calls, (∀ input ∈ inputs, keepsStream input = true) →
        loop.run 0 inputs = some (last, calls) → ∀ now, .flushDue 0 now ∉ calls := by
  refine ⟨⟨.waiting .streaming, 1000, 300000, 0, false⟩, rfl, rfl, rfl, fun now => rfl, ?_⟩
  intro inputs last calls open_ ran
  exact run_streaming (.inl rfl) open_ ran

end Fetchit.Outbox.RunLoop
