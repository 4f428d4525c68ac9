import Fetchit.Lib.Run
import Fetchit.Outbox.Store

/-! The states of a bubble over whole histories of the store: enqueueing, outcomes of attempts,
receipts and reloads. A ghost table records when each status last changed, and is compared with
the time that the bubble carries. -/
namespace Fetchit.Outbox.SendStates
open Lib Lib.Run Chat OutboxStore

/-- What the user composed: a direct message, or one member's copy of a group message. -/
structure Draft where
  id : String
  peer : String
  body : String
  group : Option GroupOutbound
  attachment : Option Attachment
  replyToMessageId : Option String

def Draft.bubble (draft : Draft) (now : Nat) : OutboxBubble :=
  let queued := OutboxBubble.queued draft.id draft.peer draft.body now
  match draft.group with
  | some group => queued.withGroup group
  | none => queued.withDmPayload draft.attachment draft.replyToMessageId

@[simp] theorem Draft.id_bubble (draft : Draft) (now : Nat) : (draft.bubble now).id = draft.id := by
  unfold bubble
  split <;> rfl

/-- Every event that writes carries whether its seal fails. -/
inductive Event where
  | enqueue (draft : Draft) (now : Nat) (fault : Bool)
  | outcome (id : String) (result : Except SendError (Option String)) (now : Nat) (fault : Bool)
  | receipt (messageId : String) (receivedAtMs : Nat) (fault : Bool)
  | reload

def step (store : OutboxStore) : Event → OutboxStore
  | .enqueue draft now fault => store.upsert (draft.bubble now) fault
  | .outcome id result now fault => (store.recordSendOutcome id result now fault).2
  | .receipt messageId receivedAtMs fault =>
    (store.markDelivered messageId receivedAtMs fault).2
  | .reload => .load store.file

def Event.time : Event → Option Nat
  | .enqueue _ now _ => some now
  | .outcome _ _ now _ => some now
  | .receipt _ receivedAtMs _ => some receivedAtMs
  | .reload => none

abbrev Changes := String → Option Nat

def observe (event : Event) (before after : OutboxStore) (changes : Changes) : Changes :=
  fun id =>
    match before.get id, after.get id with
    | _, none => none
    | none, some bubble => some bubble.enqueuedAtMs
    | some old, some new => if new.status = old.status then changes id else event.time

def observedStep (state : OutboxStore × Changes) (event : Event) : OutboxStore × Changes :=
  (step state.1 event, observe event state.1 (step state.1 event) state.2)

def lastChange (store : OutboxStore) (history : List Event) : Changes :=
  (run observedStep (store, fun id => (store.get id).map (·.stateChangedAtMs)) history).2

/-! The conditions on a history. -/

/-- New bubbles have new ids, every clock is past zero and every seal succeeds. -/
def Ordinary (store : OutboxStore) : Event → Prop
  | .enqueue draft now fault => store.get draft.id = none ∧ 0 < now ∧ fault = false
  | .outcome _ _ now fault => 0 < now ∧ fault = false
  | .receipt _ receivedAtMs fault => 0 < receivedAtMs ∧ fault = false
  | .reload => True

/-- No receipt meets a bubble that is delivered already. -/
def Once (store : OutboxStore) : Event → Prop
  | .receipt messageId _ _ =>
    ∀ bubble, store.receiptTarget messageId = some bubble → bubble.status ≠ .delivered
  | _ => True

/-- No relay has named a message id for a bubble that is queued or failed, and every bubble has
the time of its last change. -/
structure Settled (bubble : OutboxBubble) : Prop where
  stamped : 0 < bubble.stateChangedAtMs
  unnamed : bubble.status.reachedRelay = false →
    bubble.messageId = none ∧ bubble.priorMessageIds = []

/-- The file holds what the store holds. -/
structure Sound (store : OutboxStore) : Prop where
  persists : store.persists = true
  sealed : store.file.getD .empty = store.inner
  settled : ∀ bubble ∈ store.inner.rows, Settled bubble

structure Forward (before after : SendState) : Prop where
  closed : before.isTerminal = true → after = before
  accepted : before = .sent → after = .sent ∨ after = .delivered

theorem forward_refl (state : SendState) : Forward state state :=
  ⟨fun _ => rfl, fun sent => .inl sent⟩

theorem forward_trans (start : Forward first second)
    (rest : Forward second third) : Forward first third := by
  constructor
  · intro closed
    have same := start.closed closed
    rw [rest.closed (same ▸ closed), same]
  · intro sent
    rcases start.accepted sent with still | delivered
    · exact rest.accepted still
    · right
      rw [rest.closed (by rw [delivered]; rfl), delivered]

/-! One bubble and one event. -/

/-- The bubble after an event, with the clocks past zero. -/
structure Moves (now : Nat) (before after : OutboxBubble) : Prop where
  settled : Settled after
  forward : Forward before.status after.status
  changed : after.status ≠ before.status → after.stateChangedAtMs = now
  kept : after.status = before.status → after.status ≠ .delivered →
    after.stateChangedAtMs = before.stateChangedAtMs

theorem moves_refl (settled : Settled bubble) (now : Nat) :
    Moves now bubble bubble :=
  ⟨settled, forward_refl _, fun moved => absurd rfl moved, fun _ _ => rfl⟩

variable {now : Nat} {store : OutboxStore} {id : String} {event : Event}

section
variable (settled : Settled bubble)
include settled

theorem moves_accepted
    (live : bubble.status.isTerminal = false) (later : 0 < now) (messageId : Option String) :
    Moves now bubble (bubble.accepted messageId now) := by
  by_cases sent : bubble.status = .sent
  · have stamp : (bubble.accepted messageId now).stateChangedAtMs = bubble.stateChangedAtMs :=
      if_neg (not_not_intro sent)
    have status : (bubble.accepted messageId now).status = bubble.status := sent.symm
    exact ⟨⟨stamp ▸ settled.stamped, fun unreached => by cases unreached⟩,
      status ▸ forward_refl _, fun moved => absurd status moved, fun _ _ => stamp⟩
  · have stamp : (bubble.accepted messageId now).stateChangedAtMs = now := if_pos sent
    refine ⟨⟨stamp.symm ▸ later, fun unreached => by cases unreached⟩, ⟨?_, ?_⟩,
      fun _ => stamp, ?_⟩
    · intro closed
      rw [closed] at live
      cases live
    · exact fun already => absurd already sent
    · exact fun same _ => absurd same.symm sent

theorem moves_refused
    (live : bubble.status.isTerminal = false) (later : 0 < now) (failure : SendFailure) :
    Moves now bubble (bubble.refused failure now) := by
  unfold OutboxBubble.refused
  dsimp only
  split
  · rename_i final
    rw [Bool.and_eq_true, Bool.not_eq_true'] at final
    have queued : bubble.status = .queued := by
      cases status : bubble.status with
      | queued => rfl
      | failed =>
        rw [status] at live
        cases live
      | sent | delivered =>
        rw [status] at final
        cases final.2
    refine ⟨⟨later, fun _ => settled.unnamed final.2⟩, ⟨?_, ?_⟩, fun _ => rfl, ?_⟩
    · intro closed
      rw [closed] at live
      cases live
    · intro sent
      rw [queued] at sent
      cases sent
    · intro same
      rw [queued] at same
      cases same
  · exact ⟨⟨settled.stamped, settled.unnamed⟩, forward_refl _, fun moved => absurd rfl moved,
      fun _ _ => rfl⟩

theorem moves_attempted (later : 0 < now)
    (result : Except SendError (Option String)) :
    Moves now bubble
      (if bubble.status.isTerminal then bubble else bubble.attempted result now) := by
  split
  · exact moves_refl settled now
  · rename_i open_
    have live : bubble.status.isTerminal = false := by simpa using open_
    unfold OutboxBubble.attempted
    split
    · exact moves_accepted settled live later _
    · exact moves_refused settled live later _

theorem reached_of_matches
    (matched : bubble.matchesReceipt messageId = true) : bubble.status.reachedRelay = true := by
  by_contra unreached
  have unnamed := settled.unnamed (by simpa using unreached)
  simp [OutboxBubble.matchesReceipt, unnamed] at matched

end

theorem moves_delivered (later : 0 < now)
    (reached : bubble.status.reachedRelay = true) : Moves now bubble (bubble.delivered now) := by
  have status : (bubble.delivered now).status = .delivered := rfl
  refine ⟨⟨later, fun unreached => by cases unreached⟩, ⟨?_, fun _ => .inr status⟩, fun _ => rfl,
    fun _ apart => absurd status apart⟩
  intro closed
  cases was : bubble.status with
  | delivered => rfl
  | failed =>
    rw [was] at reached
    cases reached
  | queued | sent =>
    rw [was] at closed
    cases closed

theorem migrateLegacy_eq_self (settled : Settled bubble) :
    bubble.migrateLegacy = bubble :=
  if_pos settled.stamped.ne'

/-! One event and the whole store. -/

theorem Sound.settled_get (sound : Sound store)
    (found : store.get id = some bubble) : Settled bubble :=
  sound.settled bubble (Table.find?_eq_some.mp found).1

theorem Sound.get_reload (sound : Sound store) (id : String) :
    (load store.file).get id = store.get id := by
  unfold OutboxStore.load OutboxStore.get
  rw [Table.find?_update, sound.sealed]
  cases found : store.inner.find? id with
  | none => rfl
  | some bubble => rw [Option.map_some, migrateLegacy_eq_self (sound.settled_get found)]

theorem get_enqueue (fresh : store.get draft.id = none) (found : store.get id = some bubble) :
    (step store (.enqueue draft now fault)).get id = some bubble := by
  have apart : draft.id ≠ id := by
    intro same
    rw [same, found] at fresh
    cases fresh
  simp only [step, get_upsert, Draft.id_bubble, if_neg apart, found]

section
variable (sound : Sound store) (ordinary : Ordinary store event)
include sound ordinary

theorem Sound.step_moves (found : store.get id = some before) :
    ∃ after, (step store event).get id = some after ∧ Moves (event.time.getD 0) before after := by
  have settled := sound.settled_get found
  cases event with
  | enqueue draft now fault =>
    exact ⟨before, get_enqueue ordinary.1 found, moves_refl settled _⟩
  | outcome target result now fault =>
    simp only [step, get_recordSendOutcome, found]
    split
    · exact ⟨_, rfl, moves_attempted settled ordinary.1 result⟩
    · exact ⟨before, rfl, moves_refl settled _⟩
  | receipt messageId receivedAtMs fault =>
    rcases markDelivered_cases found messageId receivedAtMs fault with
      ⟨hit, after⟩ | ⟨_, after⟩
    · have reached := reached_of_matches settled (get_receiptTarget hit).2
      exact ⟨_, after, moves_delivered ordinary.1 reached⟩
    · exact ⟨before, after, moves_refl settled _⟩
  | reload => exact ⟨before, (sound.get_reload id).trans found, moves_refl settled _⟩

theorem Sound.step_delivered (once : Once store event) (found : store.get id = some bubble)
    (delivered : bubble.status = .delivered) : (step store event).get id = some bubble := by
  cases event with
  | enqueue draft now fault => exact get_enqueue ordinary.1 found
  | outcome target result now fault =>
    simp [step, get_recordSendOutcome, found, delivered, SendState.isTerminal]
  | receipt messageId receivedAtMs fault =>
    rcases markDelivered_cases found messageId receivedAtMs fault with
      ⟨hit, _⟩ | ⟨_, after⟩
    · exact absurd delivered (once bubble hit)
    · exact after
  | reload => exact (sound.get_reload id).trans found

theorem Sound.step_fresh
    (absent : store.get id = none) (found : (step store event).get id = some bubble) :
    Settled bubble ∧ bubble.stateChangedAtMs = bubble.enqueuedAtMs := by
  cases event with
  | enqueue draft now fault =>
    simp only [step, get_upsert, absent] at found
    split at found
    · cases found
      unfold Draft.bubble
      split <;> exact ⟨⟨ordinary.2.1, fun _ => ⟨rfl, rfl⟩⟩, rfl⟩
    · cases found
  | outcome target result now fault =>
    simp [step, get_recordSendOutcome, absent] at found
  | receipt messageId receivedAtMs fault =>
    simp [step, get_markDelivered, absent] at found
  | reload =>
    rw [show step store .reload = .load store.file from rfl, sound.get_reload, absent] at found
    cases found

end

theorem sealed_flush (persists : store.persists = true) :
    (store.flush false).file.getD .empty = (store.flush false).inner := by
  unfold flush
  rw [persists]
  rfl

theorem Sound.step_sealed (sound : Sound store) (ordinary : Ordinary store event) :
    (step store event).persists = true ∧
      (step store event).file.getD .empty = (step store event).inner := by
  cases event with
  | enqueue draft now fault =>
    obtain ⟨_, _, rfl⟩ := ordinary
    exact ⟨(persists_flush ..).trans sound.persists, sealed_flush sound.persists⟩
  | outcome target result now fault =>
    obtain ⟨_, rfl⟩ := ordinary
    unfold step recordSendOutcome
    dsimp only
    split
    · exact ⟨sound.persists, sound.sealed⟩
    · split
      · exact ⟨sound.persists, sound.sealed⟩
      · exact ⟨(persists_flush ..).trans sound.persists, sealed_flush sound.persists⟩
  | receipt messageId receivedAtMs fault =>
    obtain ⟨_, rfl⟩ := ordinary
    unfold step OutboxStore.markDelivered
    dsimp only
    split
    · exact ⟨sound.persists, sound.sealed⟩
    · exact ⟨(persists_flush ..).trans sound.persists, sealed_flush sound.persists⟩
  | reload =>
    have same : (store.file.getD .empty).update OutboxBubble.migrateLegacy
        OutboxBubble.id_migrateLegacy = store.file.getD .empty := by
      rw [Table.update_eq_self, sound.sealed]
      intro bubble mem
      exact migrateLegacy_eq_self (sound.settled bubble mem)
    exact ⟨rfl, same.symm⟩

theorem Sound.step (sound : Sound store) (ordinary : Ordinary store event) :
    Sound (step store event) := by
  obtain ⟨persists, sealed⟩ := sound.step_sealed ordinary
  refine ⟨persists, sealed, ?_⟩
  intro bubble mem
  have found : (SendStates.step store event).get bubble.id = some bubble :=
    get_of_mem mem
  cases was : store.get bubble.id with
  | none => exact (sound.step_fresh ordinary was found).1
  | some before =>
    obtain ⟨after, there, moves⟩ := sound.step_moves ordinary was
    rw [found] at there
    cases there
    exact moves.settled

/-! Whole histories. -/

theorem forward_run :
    ∀ {store : OutboxStore}, Sound store → Meets step Ordinary store history →
      ∀ {id before}, store.get id = some before →
        ∃ after, (run step store history).get id = some after ∧
          Forward before.status after.status := by
  induction history with
  | nil =>
    intro store _ _ id before found
    exact ⟨before, found, forward_refl _⟩
  | cons event history ih =>
    intro store sound ordinary id before found
    obtain ⟨middle, there, moves⟩ := sound.step_moves ordinary.1 found
    obtain ⟨after, last, forward⟩ := ih (sound.step ordinary.1) ordinary.2 there
    exact ⟨after, last, forward_trans moves.forward forward⟩

def Agrees (state : OutboxStore × Changes) : Prop :=
  ∀ id, state.2 id = (state.1.get id).map (·.stateChangedAtMs)

theorem Agrees.step (agrees : Agrees state) (sound : Sound state.1)
    (ordinary : Ordinary state.1 event) (once : Once state.1 event) :
    Agrees (observedStep state event) := by
  intro id
  unfold observedStep observe
  dsimp only
  cases was : state.1.get id with
  | none =>
    cases found : (SendStates.step state.1 event).get id with
    | none => rfl
    | some bubble =>
      rw [Option.map_some, (sound.step_fresh ordinary was found).2]
  | some before =>
    obtain ⟨after, found, moves⟩ := sound.step_moves ordinary was
    rw [found, Option.map_some]
    dsimp only
    by_cases same : after.status = before.status
    · rw [if_pos same, agrees id, was, Option.map_some]
      by_cases delivered : before.status = .delivered
      · have still := sound.step_delivered ordinary once was delivered
        rw [found] at still
        cases still
        rfl
      · rw [moves.kept same (same ▸ delivered)]
    · rw [if_neg same, moves.changed same]
      cases event with
      | reload =>
        rw [show SendStates.step state.1 .reload = .load state.1.file from rfl, sound.get_reload,
          was] at found
        cases found
        exact absurd rfl same
      | enqueue | outcome | receipt => rfl

theorem run_observed (history : List Event) :
    ∀ state, (run observedStep state history).1 = run step state.1 history := by
  induction history with
  | nil =>
    intro state
    rfl
  | cons event history ih =>
    intro state
    exact ih (observedStep state event)

theorem agrees_run :
    ∀ {state : OutboxStore × Changes}, Sound state.1 → Agrees state →
      Meets step Ordinary state.1 history → Meets step Once state.1 history →
        Agrees (run observedStep state history) := by
  induction history with
  | nil =>
    intro state _ agrees _ _
    exact agrees
  | cons event history ih =>
    intro state sound agrees ordinary once
    exact ih (sound.step ordinary.1) (agrees.step sound ordinary.1 once.1) ordinary.2 once.2

/-- In a history whose seals succeed and whose clocks are past zero, closed bubbles stay as they
are and sent ones are only delivered. If no receipt comes twice, every bubble carries the time of
its last change. -/
theorem outbox_states_move_forward (store : OutboxStore) (sound : Sound store)
    (history : List Event) (ordinary : Meets step Ordinary store history) :
    (∀ early late, history = early ++ late →
      ∀ id before, (run step store early).get id = some before →
        ∃ after, (run step store history).get id = some after ∧
          (before.status.isTerminal = true → after.status = before.status) ∧
          (before.status = .sent → after.status = .sent ∨ after.status = .delivered)) ∧
    (Meets step Once store history →
      ∀ id bubble, (run step store history).get id = some bubble →
        lastChange store history id = some bubble.stateChangedAtMs) := by
  constructor
  · intro early late split id before found
    subst split
    rw [meets_append] at ordinary
    have soundEarly : Sound (run step store early) :=
      run_invariant Sound (fun _ _ held meets => held.step meets) early store sound ordinary.1
    obtain ⟨after, there, forward⟩ := forward_run soundEarly ordinary.2 found
    rw [run_append]
    exact ⟨after, there, forward.closed, forward.accepted⟩
  · intro once id bubble found
    let start : OutboxStore × Changes :=
      (store, fun id => (store.get id).map (·.stateChangedAtMs))
    have agrees : Agrees (run observedStep start history) :=
      agrees_run sound (fun _ => rfl) ordinary once
    have last := agrees id
    rw [run_observed, found] at last
    exact last

/-! A message to one peer. -/

def note : Draft := ⟨"b", "p", "", none, none, none⟩

def firstBoot : OutboxStore := .load none

theorem sound_firstBoot : Sound firstBoot :=
  ⟨rfl, rfl, fun _ mem => absurd mem List.not_mem_nil⟩

def delivery : List Event :=
  [.enqueue note 5 false, .outcome "b" (.ok (some "m")) 10 false, .receipt "m" 20 false, .reload]

theorem delivery_moves_forward :
    (∀ before, (run step firstBoot (delivery.take 2)).get "b" = some before →
      ∃ after, (run step firstBoot delivery).get "b" = some after ∧
        (before.status.isTerminal = true → after.status = before.status) ∧
        (before.status = .sent → after.status = .sent ∨ after.status = .delivered)) ∧
    ∀ bubble, (run step firstBoot delivery).get "b" = some bubble →
      lastChange firstBoot delivery "b" = some bubble.stateChangedAtMs := by
  have ordinary : Meets step Ordinary firstBoot delivery :=
    ⟨⟨rfl, by decide, rfl⟩, ⟨by decide, rfl⟩, ⟨by decide, rfl⟩, trivial, trivial⟩
  have target : (run step firstBoot (delivery.take 2)).receiptTarget "m" =
      some { note.bubble 5 with
        status := .sent, messageId := some "m", stateChangedAtMs := 10 } := by
    decide +kernel
  have once : Meets step Once firstBoot delivery := by
    refine ⟨trivial, trivial, ?_, trivial, trivial⟩
    intro bubble hit
    cases target.symm.trans hit
    decide
  obtain ⟨forward, stamps⟩ := outbox_states_move_forward firstBoot sound_firstBoot delivery ordinary
  exact ⟨forward (delivery.take 2) (delivery.drop 2) rfl "b", stamps once "b"⟩

def statusAndTime (store : OutboxStore) : Option (SendState × Nat) :=
  (store.get "b").map fun bubble => (bubble.status, bubble.stateChangedAtMs)

/-- A second receipt moves the time of a bubble that is delivered since 20. With a clock at zero
the reload takes a failed bubble for one of an older version and queues it again; after a seal
that failed, the reload takes a delivered bubble back to sent. -/
theorem closed_bubble_changes :
    let accepted : List Event :=
      [.enqueue note 5 false, .outcome "b" (.ok (some "m")) 10 false]
    let twice := accepted ++ [.receipt "m" 20 false, .receipt "m" 30 false]
    let unset : List Event :=
      [.enqueue note 5 false, .outcome "b" (.error (.denied "p")) 0 false]
    let unsealed := accepted ++ [.receipt "m" 20 true]
    (lastChange firstBoot twice "b" = some 20 ∧
      statusAndTime (run step firstBoot twice) = some (.delivered, 30)) ∧
    (statusAndTime (run step firstBoot unset) = some (.failed, 0) ∧
      statusAndTime (run step firstBoot (unset ++ [.reload])) = some (.queued, 5)) ∧
    statusAndTime (run step firstBoot unsealed) = some (.delivered, 20) ∧
      statusAndTime (run step firstBoot (unsealed ++ [.reload])) = some (.sent, 10) := by
  decide +kernel

end Fetchit.Outbox.SendStates
