import Fetchit.Lib.Claims
import Fetchit.Lib.Run
import Fetchit.Outbox.Store

/-! The retry driver and the initial sends as tasks that take turns. A flush claims the bubbles of
a peer under the lock of the store and then sends them one after another without it; an initial
send claims its own new bubble. A task may die between any two steps, and a driver may be started
while the tasks of an earlier one are still running. -/
namespace Fetchit.Outbox
open Chat

def stalledClaimMs : Nat := 15 * 60 * 1000

def retryBackoffBaseMs : Nat := 15000

def retryBackoffMaxMs : Nat := 15 * 60 * 1000

def backoffMs (attempts : Nat) : Nat :=
  min (retryBackoffBaseMs * 2 ^ min (attempts - 1) 6) retryBackoffMaxMs

structure RetryPace where
  attempts : Nat
  lastAttemptMs : Nat

/-- What one driver remembers; a new one starts with nothing. -/
structure Driver where
  lastOnline : Map String Bool
  retryPace : Map String RetryPace

def Driver.new : Driver := ⟨∅, ∅⟩

inductive Eligibility where
  | retryable
  | queuedRetryable
  deriving DecidableEq

def Eligibility.accepts : Eligibility → OutboxBubble → Bool
  | .retryable, bubble => bubble.isRetryable
  | .queuedRetryable, bubble => bubble.isQueuedRetryable

theorem Eligibility.retryable_of_accepts {eligible : Eligibility}
    (accepted : eligible.accepts bubble = true) : bubble.isRetryable = true := by
  cases eligible with
  | retryable => exact accepted
  | queuedRetryable => exact (Bool.and_eq_true_iff.mp accepted).1

/-- A flush of one peer, with the peers that its caller flushes afterwards. Where `fresh` is set
the clock is read again for each of them. -/
structure Flush where
  driver : Nat
  eligible : Eligibility
  peer : String
  now : Nat
  later : List String
  fresh : Bool

inductive Task where
  /-- A timed flush has listed the queued bubbles. -/
  | due (driver : Nat) (queued : List OutboxBubble) (now : Nat)
  | gate (flush : Flush)
  | claimed (flush : Flush) (claims : List OutboxBubble)
  | connecting (flush : Flush) (current : OutboxBubble) (rest : List OutboxBubble)
  | sending (flush : Flush) (current : OutboxBubble) (rest : List OutboxBubble)
  /-- The transport has answered; waiting for the lock of the store. -/
  | sent (flush : Flush) (current : OutboxBubble) (result : Except SendError (Option String))
      (rest : List OutboxBubble)
  | dmConnecting (bubble : OutboxBubble)
  | dmSending (bubble : OutboxBubble)
  | dmSent (bubble : OutboxBubble) (result : Except SendError (Option String))
  | done

def beginFlush (driver : Nat) (eligible : Eligibility) (now : Nat) (fresh : Bool) :
    List String → Task
  | [] => .done
  | peer :: later => .gate ⟨driver, eligible, peer, now, later, fresh⟩

def Flush.proceed (flush : Flush) (clock : Nat) : List OutboxBubble → Task
  | current :: rest => .connecting flush current rest
  | [] => beginFlush flush.driver flush.eligible (if flush.fresh then clock else flush.now)
      flush.fresh flush.later

def claimAll (now : Nat) : List OutboxBubble → OutboxStore → List OutboxBubble × OutboxStore
  | [], store => ([], store)
  | bubble :: candidates, store =>
    let marked := store.tryMarkInflight bubble.id now
    let others := claimAll now candidates marked.2
    (if marked.1 then bubble :: others.1 else others.1, others.2)

def Flush.candidates (flush : Flush) (store : OutboxStore) : List OutboxBubble :=
  store.snapshot.filter fun bubble => bubble.peer == flush.peer && flush.eligible.accepts bubble

def Driver.stamp (now : Nat) (driver : Driver) (claims : List OutboxBubble) : Driver :=
  { driver with
    retryPace := claims.foldl (fun pace bubble =>
      pace.insert bubble.id ⟨((pace.lookup bubble.id).elim 0 (·.attempts)) + 1, now⟩)
      driver.retryPace }

def Driver.isDue (now : Nat) (driver : Driver) (bubble : OutboxBubble) : Bool :=
  (driver.retryPace.lookup bubble.id).all fun pace =>
    decide (now - pace.lastAttemptMs ≥ backoffMs pace.attempts)

def Driver.prune (driver : Driver) (queued : List OutboxBubble) : Driver :=
  { driver with
    retryPace := (driver.retryPace.keys.filter fun id => !(queued.map (·.id)).contains id).foldl
      (fun pace id => pace.erase id) driver.retryPace }

def peersOf (bubbles : List OutboxBubble) : List String := (bubbles.map (·.peer)).eraseDups

/-- A task's turn, with the clock it reads, what the transport answers and whether a seal
fails. -/
structure Turn where
  task : Nat
  clock : Nat
  result : Except SendError (Option String)
  fault : Bool

structure System where
  store : OutboxStore
  drivers : List Driver
  tasks : List Task

def System.boot (store : OutboxStore) : System := ⟨store, [], []⟩

/-- The outcome of an attempt and the end of its claim, under one lock. -/
def finish (store : OutboxStore) (bubble : OutboxBubble)
    (result : Except SendError (Option String)) (now : Nat) (fault : Bool) : OutboxStore :=
  (store.recordSendOutcome bubble.id result now fault).2.clearInflight bubble.id

def Task.step (system : System) (turn : Turn) : Task → Task × OutboxStore × List Driver
  | .due driver queued now =>
    match system.drivers[driver]? with
    | none => (.done, system.store, system.drivers)
    | some state =>
      let state := state.prune queued
      (beginFlush driver .queuedRetryable now false (peersOf (queued.filter (state.isDue now))),
        system.store, system.drivers.set driver state)
  | .gate flush =>
    let claims := claimAll flush.now (flush.candidates system.store) system.store
    (.claimed flush claims.1, claims.2, system.drivers)
  | .claimed flush claims =>
    (flush.proceed turn.clock claims, system.store,
      system.drivers.modify flush.driver (·.stamp flush.now claims))
  | .connecting flush current rest => (.sending flush current rest, system.store, system.drivers)
  | .sending flush current rest =>
    (.sent flush current turn.result rest, system.store, system.drivers)
  | .sent flush current result rest =>
    (flush.proceed turn.clock rest, finish system.store current result flush.now turn.fault,
      system.drivers)
  | .dmConnecting bubble => (.dmSending bubble, system.store, system.drivers)
  | .dmSending bubble => (.dmSent bubble turn.result, system.store, system.drivers)
  | .dmSent bubble result =>
    (.done, finish system.store bubble result turn.clock turn.fault, system.drivers)
  | .done => (.done, system.store, system.drivers)

inductive Event where
  | enqueueDm (id peer body : String) (attachment : Option Attachment)
      (replyToMessageId : Option String) (now : Nat) (fault : Bool)
  | enqueueGroup (id peer body : String) (group : GroupOutbound) (now : Nat) (fault : Bool)
  | presence (driver : Nat) (peer : String) (online : Bool) (now : Nat)
  | flushPeer (driver : Nat) (peer : String) (now : Nat)
  | flushAll (driver : Nat) (now : Nat)
  | flushDue (driver : Nat) (now : Nat)
  | sweepStalled (driver : Nat) (now : Nat)
  /-- A new driver, which first drops every claim. -/
  | startDriver
  | receipt (messageId : String) (receivedAtMs : Nat) (fault : Bool)
  | remove (id : String) (fault : Bool)
  | dropPeers (peers : List String) (fault : Bool)
  | turn (turn : Turn)
  | abort (task : Nat)

namespace System

def spawn (system : System) (task : Task) : System :=
  { system with tasks := system.tasks ++ [task] }

def withStore (system : System) (store : OutboxStore) : System := { system with store := store }

/-- The bubble is stored and claimed under one lock, and then sent. A picture beyond the cap is
refused. -/
def enqueueDm (system : System) (bubble : OutboxBubble) (now : Nat) (fault : Bool) : System :=
  if bubble.attachment.isSome && !system.store.hasAttachmentCapacity then system
  else (system.withStore ((system.store.upsert bubble fault).tryMarkInflight bubble.id now).2).spawn
    (.dmConnecting bubble)

def onPresence (system : System) (driver : Nat) (peer : String) (online : Bool) (now : Nat) :
    System :=
  match system.drivers[driver]? with
  | none => system
  | some state =>
    let drivers := system.drivers.set driver
      { state with lastOnline := state.lastOnline.insert peer online }
    if online && !(state.lastOnline.lookup peer == some true) then
      { system with drivers := drivers }.spawn (beginFlush driver .retryable now false [peer])
    else { system with drivers := drivers }

def takeTurn (system : System) (turn : Turn) : System :=
  match system.tasks[turn.task]? with
  | none => system
  | some task =>
    let outcome := task.step system turn
    ⟨outcome.2.1, outcome.2.2, system.tasks.set turn.task outcome.1⟩

def step (system : System) : Event → System
  | .enqueueDm id peer body attachment replyToMessageId now fault =>
    system.enqueueDm ((OutboxBubble.queued id peer body now).withDmPayload attachment
      replyToMessageId) now fault
  | .enqueueGroup id peer body group now fault =>
    system.withStore (system.store.upsert ((OutboxBubble.queued id peer body now).withGroup group)
      fault)
  | .presence driver peer online now => system.onPresence driver peer online now
  | .flushPeer driver peer now => system.spawn (beginFlush driver .retryable now false [peer])
  | .flushAll driver now =>
    system.spawn (beginFlush driver .retryable now true
      (peersOf (system.store.snapshot.filter (·.isRetryable))))
  | .flushDue driver now =>
    system.spawn (.due driver (system.store.snapshot.filter (·.isQueuedRetryable)) now)
  | .sweepStalled driver now =>
    let freed := system.store.clearStalledInflight now stalledClaimMs
    (system.withStore freed.2).spawn (beginFlush driver .retryable now false (peersOf freed.1))
  | .startDriver =>
    { system.withStore system.store.clearAllInflight with
      drivers := system.drivers ++ [Driver.new] }
  | .receipt messageId receivedAtMs fault =>
    system.withStore (system.store.markDelivered messageId receivedAtMs fault).2
  | .remove id fault => system.withStore (system.store.remove id fault)
  | .dropPeers peers fault => system.withStore (system.store.dropBubblesForPeers peers fault).2
  | .turn turn => system.takeTurn turn
  | .abort task => { system with tasks := system.tasks.set task .done }

end System

/-! The claims of the tasks. -/

def Task.held : Task → List String
  | .claimed _ claims => claims.map (·.id)
  | .connecting _ current rest | .sending _ current rest | .sent _ current _ rest =>
    current.id :: rest.map (·.id)
  | .dmConnecting bubble | .dmSending bubble | .dmSent bubble _ => [bubble.id]
  | .due .. | .gate _ | .done => []

def System.held (system : System) : List String := system.tasks.flatMap Task.held

def Task.inProgress : Task → Option String
  | .sending _ current _ => some current.id
  | .dmSending bubble => some bubble.id
  | _ => none

def System.inProgress (system : System) : List String :=
  system.tasks.filterMap Task.inProgress

def Task.waiting : Task → List OutboxBubble
  | .claimed _ claims => claims
  | .connecting _ current rest => current :: rest
  | .sending _ _ rest | .sent _ _ _ rest => rest
  | .due .. | .gate _ | .dmConnecting _ | .dmSending _ | .dmSent .. | .done => []

def Task.finishing : Task → Option OutboxBubble
  | .sent _ current _ _ => some current
  | .dmSent bubble _ => some bubble
  | _ => none

@[simp] theorem held_beginFlush (driver : Nat) (eligible : Eligibility) (now : Nat) (fresh : Bool)
    (peers : List String) : (beginFlush driver eligible now fresh peers).held = [] := by
  cases peers <;> rfl

@[simp] theorem held_proceed (flush : Flush) (clock : Nat) (claims : List OutboxBubble) :
    (flush.proceed clock claims).held = claims.map (·.id) := by
  cases claims with
  | nil => exact held_beginFlush ..
  | cons current rest => rfl

@[simp] theorem waiting_beginFlush (driver : Nat) (eligible : Eligibility) (now : Nat)
    (fresh : Bool) (peers : List String) :
    (beginFlush driver eligible now fresh peers).waiting = [] := by
  cases peers <;> rfl

@[simp] theorem waiting_proceed (flush : Flush) (clock : Nat) (claims : List OutboxBubble) :
    (flush.proceed clock claims).waiting = claims := by
  cases claims with
  | nil => exact waiting_beginFlush ..
  | cons current rest => rfl

@[simp] theorem held_spawn (system : System) (task : Task) :
    (system.spawn task).held = system.held ++ task.held := by
  simp [System.held, System.spawn]

/-- What a task does with its turn: it claims the bubbles of a peer, it records an outcome and gives
that claim back, or it goes on without touching the store. -/
inductive Turned (store : OutboxStore) : Task → Task → OutboxStore → Prop
  | claims (flush : Flush) :
      Turned store (.gate flush)
        (.claimed flush (claimAll flush.now (flush.candidates store) store).1)
        (claimAll flush.now (flush.candidates store) store).2
  | finishes {task next : Task} {bubble : OutboxBubble}
      (result : Except SendError (Option String)) (now : Nat) (fault : Bool)
      (finishing : task.finishing = some bubble) (held : task.held = bubble.id :: next.held)
      (waiting : next.waiting ⊆ task.waiting) :
      Turned store task next (finish store bubble result now fault)
  | goesOn {task next : Task} (held : next.held = task.held)
      (waiting : next.waiting ⊆ task.waiting) : Turned store task next store

theorem Task.turned (system : System) (turn : Turn) (task : Task) :
    Turned system.store task (task.step system turn).1 (task.step system turn).2.1 := by
  cases task with
  | due driver queued now =>
    simp only [Task.step]
    split
    · exact .goesOn rfl (List.Subset.refl _)
    · refine .goesOn (held_beginFlush ..) ?_
      rw [waiting_beginFlush]
      exact List.Subset.refl _
  | gate flush => exact .claims flush
  | claimed flush claims =>
    refine .goesOn (held_proceed ..) ?_
    rw [Task.step, waiting_proceed]
    exact List.Subset.refl _
  | connecting flush current rest => exact .goesOn rfl (List.subset_cons_self current rest)
  | sending | dmConnecting | dmSending | done => exact .goesOn rfl (List.Subset.refl _)
  | sent flush current result rest =>
    refine .finishes result flush.now turn.fault rfl ?_ ?_
    · rw [Task.step, held_proceed]
      rfl
    · rw [Task.step, waiting_proceed]
      exact List.Subset.refl _
  | dmSent bubble result =>
    exact .finishes result turn.clock turn.fault rfl rfl (List.Subset.refl _)

theorem System.takeTurn_of_found {system : System} (found : system.tasks[turn.task]? = some task) :
    ∃ next store drivers, Turned system.store task next store ∧
      system.takeTurn turn = ⟨store, drivers, system.tasks.set turn.task next⟩ := by
  refine ⟨_, _, (task.step system turn).2.2, task.turned system turn, ?_⟩
  unfold System.takeTurn
  rw [found]

/-! What a round of claims leaves behind. -/

section
variable (now : Nat) (candidates : List OutboxBubble)

theorem inner_claimAll : ∀ store, (claimAll now candidates store).2.inner = store.inner := by
  induction candidates with
  | nil =>
    intro store
    rfl
  | cons bubble candidates ih =>
    intro store
    exact ih _

theorem get_claimAll (store : OutboxStore) (id : String) :
    (claimAll now candidates store).2.get id = store.get id := by
  unfold OutboxStore.get
  rw [inner_claimAll]

theorem lookup_claimAll (query : String) :
    ∀ store, (claimAll now candidates store).2.inflight.lookup query =
      if query ∈ candidates.map (·.id) then some now else store.inflight.lookup query := by
  induction candidates with
  | nil =>
    simp [claimAll]
  | cons bubble candidates ih =>
    simp only [claimAll, ih, OutboxStore.tryMarkInflight]
    by_cases same : query = bubble.id
    · subst same
      simp
    · simp [same]

theorem sublist_claimAll :
    ∀ store, List.Sublist (claimAll now candidates store).1 candidates := by
  induction candidates with
  | nil =>
    intro store
    exact List.Sublist.refl _
  | cons bubble candidates ih =>
    intro store
    simp only [claimAll]
    split
    · exact (ih _).cons_cons bubble
    · exact (ih _).cons bubble

theorem free_of_claimAll :
    ∀ store, ((claimAll now candidates store).1.map (·.id)).Nodup ∧
      ∀ id ∈ (claimAll now candidates store).1.map (·.id), store.inflight.lookup id = none := by
  induction candidates with
  | nil =>
    simp [claimAll]
  | cons bubble candidates ih =>
    intro store
    obtain ⟨distinct, free⟩ := ih (store.tryMarkInflight bubble.id now).2
    have others : ∀ id ∈ (claimAll now candidates (store.tryMarkInflight bubble.id now).2).1.map
        (·.id), id ≠ bubble.id ∧ store.inflight.lookup id = none := by
      intro id mem
      have unmarked := free id mem
      by_cases same : id = bubble.id
      · subst same
        simp [OutboxStore.tryMarkInflight] at unmarked
      · refine ⟨same, ?_⟩
        rw [← unmarked]
        exact (AList.lookup_insert_ne same).symm
    simp only [claimAll]
    split
    · rename_i new
      rw [List.map_cons, List.nodup_cons]
      refine ⟨⟨fun mem => (others _ mem).1 rfl, distinct⟩, ?_⟩
      intro id mem
      rcases List.mem_cons.mp mem with rfl | mem
      · exact Option.isNone_iff_eq_none.mp new
      · exact (others id mem).2
    · exact ⟨distinct, fun id mem => (others id mem).2⟩

end

/-! A first start, and turns in which a relay accepts what is sent under the id `m`. -/

def newStore : OutboxStore := .load none

def turnOf (task : Nat) : Event := .turn ⟨task, 0, .ok (some "m"), false⟩

end Fetchit.Outbox
