import Fetchit.Transport.SlotTable

/-! Which connections feed the dispatcher. The fan-in of a connection runs on when the slot is
overwritten or emptied: it hands on what its channel still holds, and more comes in as long as a
send holds the handle. Only a swap of the primary stops the old fan-in. -/
namespace Fetchit.Chat
open Function

variable {progress : CallStage}

theorem CallStage.conn_of_transit {conn : Nat} (h : progress.transit = some conn) :
    progress.conn = some conn := by
  cases progress <;> first | exact h | cases h

theorem CallStage.transit_of_pending {conn : Nat} (h : progress.pending = some conn) :
    progress.transit = some conn := by
  cases progress <;> first | exact h | cases h

theorem CallStage.transit_or_sending {conn : Nat} (h : progress.conn = some conn) :
    progress.transit = some conn ∨ progress = .sending conn := by
  cases progress <;> first | exact .inl h | cases h
  exact .inr rfl

namespace Pipeline
variable {pipeline : Pipeline}

theorem slots_gate (inbound : InboundEnvelope) (now : Nat) :
    (pipeline.gate inbound now).slots = pipeline.slots := by
  unfold gate
  split
  · rfl
  · split
    · rfl
    · split <;> rfl

variable {other : Nat}

theorem slots_pump (h : (pipeline.pump slot transitSeq envelope).slots other ≠ []) :
    pipeline.slots other ≠ [] ∨ other = slot := by
  unfold pump at h
  dsimp only at h
  split at h
  · dsimp only at h
    by_cases same : other = slot
    · exact .inr same
    · rw [update_of_ne same] at h
      exact .inl h
  · exact .inl h
  · exact .inl h

theorem slots_fanIn (h : (pipeline.fanIn slot now).slots other ≠ []) :
    pipeline.slots other ≠ [] := by
  unfold fanIn at h
  split at h
  · exact h
  · rename_i inbound rest waiting
    rw [slots_gate] at h
    dsimp only at h
    by_cases same : other = slot
    · rw [same, waiting]
      exact List.cons_ne_nil _ _
    · rw [update_of_ne same] at h
      exact h

theorem slots_teardown (h : (pipeline.teardown slot).slots other ≠ []) :
    pipeline.slots other ≠ [] := by
  unfold teardown at h
  dsimp only at h
  by_cases same : other = slot
  · rw [same, update_self] at h
    exact absurd rfl h
  · rw [update_of_ne same] at h
    exact h

theorem fanIn_of_empty (h : pipeline.slots slot = []) (now : Nat) :
    pipeline.fanIn slot now = pipeline := by
  unfold fanIn
  rw [h]

end Pipeline

namespace MultiHomeTransport
open Lib Lib.Run

section
variable (state : MultiHomeTransport)

def InTransit (conn : Nat) : Prop :=
  ∃ call progress, state.calls.get? call = some progress ∧ progress.transit = some conn

def CanDispatch (conn : Nat) : Prop :=
  conn ∈ state.fanIns ∧ (state.pipeline.slots conn ≠ [] ∨ state.Held conn ∨ state.InUse conn)

instance decidableCanDispatch (conn : Nat) : Decidable (state.CanDispatch conn) :=
  inferInstanceAs (Decidable (_ ∧ (_ ∨ _ ∨ _)))

def Unused (conn : Nat) : Prop := ∀ entry ∈ state.calls.entries, entry.2 ≠ .sending conn

instance decidableUnused (conn : Nat) : Decidable (state.Unused conn) :=
  inferInstanceAs (Decidable (∀ entry ∈ state.calls.entries, entry.2 ≠ .sending conn))

end

variable {state next : MultiHomeTransport} {conn : Nat}

theorem get?_setCall (call other : Nat) (progress : Option CallStage) :
    (state.setCall call progress).calls.get? other =
      if other = call then progress else state.calls.get? other := by
  cases progress with
  | none => exact SortedMap.get?_erase state.calls call other
  | some progress => exact SortedMap.get?_insert state.calls call other progress

theorem get?_connect (call other : Nat) (progress : Nat → CallStage) :
    (state.connect call progress).calls.get? other =
      if other = call then some (progress state.nextConn) else state.calls.get? other :=
  get?_setCall call other _

variable {call other : Nat} {event : Event}

theorem get?_setCall_of_ne (apart : other ≠ call) (progress : Option CallStage) :
    (state.setCall call progress).calls.get? other = state.calls.get? other := by
  rw [get?_setCall, if_neg apart]

theorem get?_setCall_eq_some (h : (state.setCall call after).calls.get? other = some progress) :
    after = some progress ∨ state.calls.get? other = some progress := by
  rw [get?_setCall] at h
  split at h
  · exact .inl h
  · exact .inr h

theorem inUse_iff :
    state.InUse conn ↔ ∃ call progress, state.calls.get? call = some progress ∧
      progress.conn = some conn := by
  constructor
  · rintro ⟨⟨call, progress⟩, mem, bound⟩
    exact ⟨call, progress, SortedMap.get?_eq_some.mpr mem, bound⟩
  · rintro ⟨call, progress, there, bound⟩
    exact ⟨(call, progress), SortedMap.get?_eq_some.mp there, bound⟩

section
variable {i : Fin 3} {slot : Slot}

theorem held_of_slot (there : state.slots i = some slot) : state.Held slot.conn :=
  ⟨i, by rw [there]; rfl⟩

theorem held_seated (wrote : next.slots = update state.slots i (some slot))
    (same : slot.conn = conn) : next.Held conn := by
  rw [← same]
  apply held_of_slot (i := i)
  rw [wrote, update_self]

theorem held_elsewhere {other : Slot} (there : state.slots j = some other)
    (wrote : next.slots = update state.slots i (some slot)) (apart : j ≠ i) :
    next.Held other.conn := by
  apply held_of_slot (i := j)
  rw [wrote, update_of_ne apart, there]

theorem held_of_seated (wrote : next.slots = update state.slots i (some slot))
    (h : next.Held conn) : conn = slot.conn ∨ state.Held conn := by
  obtain ⟨j, there⟩ := h
  rw [wrote] at there
  by_cases same : j = i
  · rw [same, update_self] at there
    exact .inl (Option.some.inj there).symm
  · rw [update_of_ne same] at there
    exact .inr ⟨j, there⟩

end

theorem sending_of_moves (moves : state.Moves next)
    (h : next.calls.get? call = some (.sending conn)) :
    state.calls.get? call = some (.sending conn) ∨ next.Held conn := by
  cases moves with
  | pass | block => exact .inl h
  | plan idle unbound =>
    rcases get?_setCall_eq_some h with set | before
    · cases unbound _ set
    · exact .inl before
  | reuse | install =>
    rcases get?_setCall_eq_some h with set | before
    · cases set
      exact .inr (held_seated rfl rfl)
    · exact .inl before
  | connect idle carried =>
    rcases get?_setCall_eq_some h with set | before
    · have pending := carried state.nextConn
      rw [Option.some.inj set] at pending
      cases pending
    · exact .inl before
  | swap now awaiting =>
    rcases get?_setCall_eq_some h with set | before
    · obtain ⟨_, _, same⟩ := Option.map_eq_some_iff.mp set
      cases same
    · exact .inl before
  | close there closing =>
    rcases get?_setCall_eq_some h with set | before
    · cases set
    · exact .inl before

theorem transit_of_moves (moves : state.Moves next) (h : state.InTransit conn) :
    next.InTransit conn ∨ next.Held conn ∨ conn ∉ next.fanIns := by
  obtain ⟨call, progress, there, transit⟩ := h
  -- The call that moves may be another one, which leaves this one where it was.
  have stays {mover : Nat} {after : Option CallStage}
      (calls : next.calls = (state.setCall mover after).calls) (apart : call ≠ mover) :
      next.InTransit conn :=
    ⟨call, progress, by rw [calls, get?_setCall_of_ne apart, there], transit⟩
  have apart {mover : Nat} (idle : state.Idle mover) : call ≠ mover := by
    rintro rfl
    rw [idle progress there] at transit
    cases transit
  cases moves with
  | pass | block => exact .inl ⟨call, progress, there, transit⟩
  | plan idle unbound | reuse now idle _ | connect idle carried =>
    exact .inl (stays rfl (apart idle))
  | @install mover _ _ _ now built =>
    by_cases same : call = mover
    · rw [← same, there] at built
      cases built
      cases transit
      exact .inr (.inl (held_seated rfl rfl))
    · exact .inl (stays rfl same)
  | @swap mover _ _ now awaiting =>
    by_cases same : call = mover
    · rw [← same, there] at awaiting
      cases awaiting
      cases transit
      exact .inr (.inl (held_seated rfl rfl))
    · exact .inl (stays rfl same)
  | @close mover _ was waiting closing =>
    by_cases same : call = mover
    · rw [← same, there] at waiting
      cases waiting
      rw [transit] at closing
      cases closing
      simp [close]
    · exact .inl (stays rfl same)

theorem fanIns_setCall (call : Nat) (progress : Option CallStage) :
    (state.setCall call progress).fanIns = state.fanIns := by
  cases progress <;> rfl

theorem fanIns_of_moves (moves : state.Moves next) (h : conn ∈ next.fanIns) :
    conn ∈ state.fanIns ∨ next.InTransit conn := by
  cases moves with
  | pass | block | reuse | install => exact .inl h
  | plan | swap =>
    rw [fanIns_setCall] at h
    exact .inl h
  | close there closing => exact .inl (List.mem_of_mem_filter h)
  | @connect call progress idle carried =>
    rcases List.mem_cons.mp h with rfl | there
    · refine .inr ⟨call, progress state.nextConn, ?_, ?_⟩
      · rw [get?_connect, if_pos rfl]
      · exact CallStage.transit_of_pending (carried state.nextConn)
    · exact .inl there

theorem slots_setCall (call : Nat) (progress : Option CallStage) :
    (state.setCall call progress).slots = state.slots := by
  cases progress <;> rfl

theorem primary_of_moves (moves : state.Moves next)
    (there : state.slots 0 = some slot) : next.Held slot.conn ∨ next.InTransit slot.conn := by
  cases moves with
  | pass | connect | close => exact .inl (held_of_slot there)
  | block pinned fewer => exact .inl (held_of_slot (pinned.trans there))
  | plan idle unbound =>
    refine .inl (held_of_slot (i := 0) ?_)
    rw [slots_setCall, there]
  | @reuse call i other now idle found =>
    by_cases zero : i = 0
    · rw [zero, there] at found
      cases found
      exact .inl (held_seated rfl rfl)
    · exact .inl (held_elsewhere there rfl (Ne.symm zero))
  | @install call url victim _ now built =>
    exact .inl (held_elsewhere there rfl (Ne.symm (Fin.succ_ne_zero victim)))
  | @swap call url _ now awaiting =>
    refine .inr ⟨call, .draining slot.conn, ?_, rfl⟩
    rw [get?_setCall, if_pos rfl, there]
    rfl

theorem pipeline_sendInner (call : Nat) (recipient : String) (relays : List String)
    (isBlocked : Trust.EntryKind → String → Bool) (now : Nat) :
    (state.sendInner call recipient relays isBlocked now).2.pipeline = state.pipeline := by
  unfold sendInner
  split
  · rfl
  · split
    · rfl
    · split
      · rfl
      · split <;> rfl

theorem pipeline_commit (h : (state.commit call connected now).2.pipeline.slots conn ≠ []) :
    state.pipeline.slots conn ≠ [] := by
  unfold commit at h
  split at h
  · cases connected with
    | false => exact Pipeline.slots_teardown h
    | true =>
      cases there : state.slots 0 with
      | none | some =>
        rw [there] at h
        exact h
  · exact h

theorem channel_step (h : (state.step event).pipeline.slots conn ≠ []) :
    state.pipeline.slots conn ≠ [] ∨
      ∃ transitSeq envelope, event = .deliver conn transitSeq envelope := by
  unfold step act at h
  cases event with
  | send call recipient relays isBlocked now =>
    dsimp only at h
    split at h
    · exact .inl h
    · rw [pipeline_sendInner] at h
      exact .inl h
  | choose call =>
    unfold choose at h
    dsimp only at h
    split at h <;> exact .inl h
  | build call outcome =>
    unfold build at h
    dsimp only at h
    split at h <;> exact .inl h
  | install call now =>
    unfold install at h
    dsimp only at h
    split at h <;> exact .inl h
  | sent call =>
    unfold sent at h
    dsimp only at h
    split at h <;> exact .inl h
  | replacePrimary call url =>
    dsimp only at h
    split at h <;> exact .inl h
  | commit call connected now => exact .inl (pipeline_commit h)
  | drained call =>
    unfold drained at h
    dsimp only at h
    split at h
    · exact .inl (Pipeline.slots_teardown h)
    · exact .inl h
  | block event =>
    unfold handleBlock at h
    dsimp only at h
    split at h <;> exact .inl h
  | deliver other transitSeq envelope =>
    unfold deliver at h
    dsimp only at h
    split at h
    · rcases Pipeline.slots_pump h with there | rfl
      · exact .inl there
      · exact .inr ⟨transitSeq, envelope, rfl⟩
    · exact .inl h
  | fanIn other now =>
    unfold fanIn at h
    dsimp only at h
    split at h
    · exact .inl (Pipeline.slots_fanIn h)
    · exact .inl h

/-- A delivery meets a connection that is in a slot. -/
def Seated (state : MultiHomeTransport) : Event → Prop
  | .deliver conn _ _ => state.Held conn
  | _ => True

instance decidableSeated (state : MultiHomeTransport) : ∀ event, Decidable (state.Seated event)
  | .deliver conn _ _ => decidableHeld state conn
  | .send _ _ _ _ _ | .choose _ | .build _ _ | .install _ _ | .sent _ | .replacePrimary _ _
  | .commit _ _ _ | .drained _ | .block _ | .fanIn _ _ => isTrue trivial

/-- A connection leaves its slot only with an empty channel and, outside slot 0, while no send
uses it. -/
def LeavesQuietly (state : MultiHomeTransport) (event : Event) : Prop :=
  ∀ i, ∀ slot ∈ state.slots i, ¬(state.step event).Held slot.conn →
    state.pipeline.slots slot.conn = [] ∧ (i = pinnedSlot ∨ state.Unused slot.conn)

instance decidableLeavesQuietly (state : MultiHomeTransport) (event : Event) :
    Decidable (state.LeavesQuietly event) :=
  inferInstanceAs (Decidable (∀ i, ∀ slot ∈ state.slots i, _ → _))

def Tidy (state : MultiHomeTransport) (event : Event) : Prop :=
  state.LeavesQuietly event ∧ state.Seated event

instance decidableTidy (state : MultiHomeTransport) (event : Event) :
    Decidable (state.Tidy event) :=
  inferInstanceAs (Decidable (_ ∧ _))

/-- What waits in a channel came on a seated connection, and a send uses one that is seated, in
transit or closed. -/
structure Sound (state : MultiHomeTransport) : Prop where
  channels : ∀ conn, state.pipeline.slots conn ≠ [] → state.Held conn
  sends : ∀ call conn, state.calls.get? call = some (.sending conn) → conn ∈ state.fanIns →
    state.Held conn ∨ state.InTransit conn

theorem held_deliver :
    (state.step (.deliver other transitSeq envelope)).Held conn ↔ state.Held conn := by
  unfold step act deliver
  dsimp only
  split <;> rfl

section
variable (sound : state.Sound) (tidy : state.Tidy event)
include sound tidy

theorem channels_step
    (h : (state.step event).pipeline.slots conn ≠ []) : (state.step event).Held conn := by
  rcases channel_step h with before | ⟨transitSeq, envelope, rfl⟩
  · by_contra left
    obtain ⟨i, there⟩ := sound.channels conn before
    obtain ⟨slot, found, rfl⟩ := Option.map_eq_some_iff.mp there
    exact before (tidy.1 i slot found left).1
  · exact held_deliver.mpr tidy.2

theorem sends_step (h : (state.step event).calls.get? call = some (.sending conn))
    (running : conn ∈ (state.step event).fanIns) :
    (state.step event).Held conn ∨ (state.step event).InTransit conn := by
  have moves : state.Moves (state.step event) := moves_step event
  rcases sending_of_moves moves h with before | held
  · rcases fanIns_of_moves moves running with ran | transit
    · rcases sound.sends call conn before ran with held | transit
      · by_cases stays : (state.step event).Held conn
        · exact .inl stays
        · obtain ⟨i, there⟩ := held
          obtain ⟨slot, found, rfl⟩ := Option.map_eq_some_iff.mp there
          rcases (tidy.1 i slot found stays).2 with rfl | unused
          · exact primary_of_moves moves found
          · exact absurd rfl (unused _ (SortedMap.get?_eq_some.mp before))
      · rcases transit_of_moves moves transit with still | held | gone
        · exact .inr still
        · exact .inl held
        · exact absurd running gone
    · exact .inr transit
  · exact .inl held

theorem Sound.step :
    (state.step event).Sound where
  channels _ := channels_step sound tidy
  sends _ _ := sends_step sound tidy

end

theorem Sound.canDispatch (sound : state.Sound) (h : state.CanDispatch conn) :
    state.Held conn ∨ state.InTransit conn := by
  obtain ⟨running, waiting | held | used⟩ := h
  · exact .inl (sound.channels conn waiting)
  · exact .inl held
  · obtain ⟨call, progress, there, bound⟩ := inUse_iff.mp used
    rcases CallStage.transit_or_sending bound with transit | rfl
    · exact .inr ⟨call, progress, there, transit⟩
    · exact sound.sends call conn there running

theorem nextConn_setCall (call : Nat) (progress : Option CallStage) :
    (state.setCall call progress).nextConn = state.nextConn := by
  cases progress <;> rfl

theorem nextConn_of_moves (moves : state.Moves next) : state.nextConn ≤ next.nextConn := by
  cases moves with
  | connect idle carried => exact Nat.le_succ _
  | plan idle unbound =>
    rw [nextConn_setCall]
  | swap now awaiting =>
    rw [nextConn_setCall]
  | pass | block | reuse | install | close => exact Nat.le_refl _

theorem pending_of_moves (moves : state.Moves next)
    (h : next.calls.get? call = some progress) (pending : progress.pending = some conn) :
    state.calls.get? call = some progress ∨
      conn = state.nextConn ∧ next.nextConn = state.nextConn + 1 ∧
        ∀ other, other ≠ call → next.calls.get? other = state.calls.get? other := by
  cases moves with
  | pass | block => exact .inl h
  | plan idle unbound =>
    rcases get?_setCall_eq_some h with set | before
    · have bound := CallStage.conn_of_transit (CallStage.transit_of_pending pending)
      rw [unbound progress set] at bound
      cases bound
    · exact .inl before
  | reuse | install =>
    rcases get?_setCall_eq_some h with set | before
    · cases set
      cases pending
    · exact .inl before
  | @connect mover plan idle carried =>
    rw [get?_connect] at h
    split at h
    · rename_i same
      rw [← Option.some.inj h, carried] at pending
      refine .inr ⟨(Option.some.inj pending).symm, rfl, ?_⟩
      intro other apart
      exact get?_setCall_of_ne (same ▸ apart) _
    · exact .inl h
  | swap now awaiting =>
    rcases get?_setCall_eq_some h with set | before
    · obtain ⟨_, _, rfl⟩ := Option.map_eq_some_iff.mp set
      cases pending
    · exact .inl before
  | close there closing =>
    rcases get?_setCall_eq_some h with set | before
    · cases set
    · exact .inl before

theorem held_of_moves (moves : state.Moves next) (h : next.Held conn) :
    state.Held conn ∨ ∃ call progress, state.calls.get? call = some progress ∧
      progress.pending = some conn ∧
        ∀ after, next.calls.get? call = some after → after.pending = none := by
  cases moves with
  | pass | connect | close => exact .inl h
  | block pinned fewer =>
    obtain ⟨j, there⟩ := h
    obtain ⟨seat, kept, rfl⟩ := Option.map_eq_some_iff.mp there
    exact .inl (held_of_slot (fewer j seat kept))
  | plan idle unbound =>
    unfold Held at h
    rw [slots_setCall] at h
    exact .inl h
  | reuse now idle there =>
    have seated := held_of_slot there
    rcases held_of_seated rfl h with rfl | before
    · exact .inl seated
    · exact .inl before
  | @install call url victim built now there =>
    rcases held_of_seated rfl h with rfl | before
    · refine .inr ⟨call, _, there, rfl, ?_⟩
      intro after found
      rw [get?_setCall, if_pos rfl] at found
      cases found
      rfl
    · exact .inl before
  | @swap call url awaited now there =>
    rcases held_of_seated rfl h with rfl | before
    · refine .inr ⟨call, _, there, rfl, ?_⟩
      intro after found
      rw [get?_setCall, if_pos rfl] at found
      obtain ⟨_, _, rfl⟩ := Option.map_eq_some_iff.mp found
      rfl
    · exact .inl before

/-- Connections are numbered once, and a pending one is in no slot. -/
structure Fresh (state : MultiHomeTransport) : Prop where
  held : ∀ conn, state.Held conn → conn < state.nextConn
  pending : ∀ call progress conn, state.calls.get? call = some progress →
    progress.pending = some conn → conn < state.nextConn ∧ ¬state.Held conn
  unique : ∀ call other progress plan conn, state.calls.get? call = some progress →
    state.calls.get? other = some plan → progress.pending = some conn →
      plan.pending = some conn → call = other

theorem Fresh.step (fresh : state.Fresh) (event : Event) : (state.step event).Fresh := by
  have moves : state.Moves (state.step event) := moves_step event
  have grows := nextConn_of_moves moves
  constructor
  · intro conn held
    rcases held_of_moves moves held with before | ⟨call, progress, there, pending, _⟩
    · exact Nat.lt_of_lt_of_le (fresh.held conn before) grows
    · exact Nat.lt_of_lt_of_le (fresh.pending call progress conn there pending).1 grows
  · intro call progress conn there pending
    rcases pending_of_moves moves there pending with before | ⟨new, next, _⟩
    · obtain ⟨known, apart⟩ := fresh.pending call progress conn before pending
      refine ⟨Nat.lt_of_lt_of_le known grows, ?_⟩
      intro held
      rcases held_of_moves moves held with held | ⟨mover, plan, moved, seated, empty⟩
      · exact apart held
      · have same := fresh.unique call mover progress plan conn before moved pending seated
        rw [empty progress (same ▸ there)] at pending
        cases pending
    · refine ⟨by omega, ?_⟩
      intro held
      rcases held_of_moves moves held with held | ⟨mover, plan, moved, seated, _⟩
      · have := fresh.held conn held
        omega
      · have := (fresh.pending mover plan conn moved seated).1
        omega
  · intro call other progress plan conn there found pending seated
    rcases pending_of_moves moves there pending with before | ⟨new, _, kept⟩
    · rcases pending_of_moves moves found seated with was | ⟨new, _, kept⟩
      · exact fresh.unique call other progress plan conn before was pending seated
      · have := (fresh.pending call progress conn before pending).1
        omega
    · by_contra apart
      rw [kept other (Ne.symm apart)] at found
      have := (fresh.pending other plan conn found seated).1
      omega

/-- The connection was numbered and no call will seat it. -/
structure Placed (state : MultiHomeTransport) (conn : Nat) : Prop where
  known : conn < state.nextConn
  settled : ∀ call progress, state.calls.get? call = some progress → progress.pending ≠ some conn

theorem Fresh.placed (fresh : state.Fresh) (held : state.Held conn) : state.Placed conn where
  known := fresh.held conn held
  settled := by
    intro call progress there pending
    exact (fresh.pending call progress conn there pending).2 held

section
variable (placed : state.Placed conn)
include placed

theorem placed_step (event : Event) :
    (state.step event).Placed conn where
  known := Nat.lt_of_lt_of_le placed.known (nextConn_of_moves (moves_step event))
  settled := by
    intro call progress there pending
    rcases pending_of_moves (moves_step event) there pending with before | ⟨new, _⟩
    · exact placed.settled call progress before pending
    · have := placed.known
      omega

theorem absent_step (absent : ¬state.Held conn) (event : Event) :
    ¬(state.step event).Held conn := by
  intro held
  rcases held_of_moves (moves_step event) held with before | ⟨call, progress, there, pending, _⟩
  · exact absent before
  · exact placed.settled call progress there pending

theorem absent_run (absent : ¬state.Held conn)
    (events : List Event) : ¬(run step state events).Held conn := by
  induction events generalizing state with
  | nil => exact absent
  | cons event events ih => exact ih (placed_step placed event) (absent_step placed absent event)

end

section
variable (primaryUrl : String) (chat : Option ChatState) (now : Nat)

theorem held_start (h : (newWithSubscriber primaryUrl chat now).Held conn) : conn = 0 := by
  obtain ⟨i, there⟩ := h
  unfold newWithSubscriber at there
  dsimp only at there
  by_cases zero : i = 0
  · rw [zero] at there
    exact (Option.some.inj there).symm
  · rw [update_of_ne zero] at there
    cases there

theorem sound_start : (newWithSubscriber primaryUrl chat now).Sound where
  channels _ waiting := absurd rfl waiting
  sends _ _ there := nomatch there

theorem fresh_start : (newWithSubscriber primaryUrl chat now).Fresh where
  held _ held := by
    rw [held_start primaryUrl chat now held]
    exact Nat.zero_lt_one
  pending _ _ _ there := nomatch there
  unique _ _ _ _ _ there := nomatch there

theorem fresh_run (events : List Event) :
    (run step (newWithSubscriber primaryUrl chat now) events).Fresh := by
  exact run_keeps Fresh (fun _ event fresh => fresh.step event) events
    (fresh_start primaryUrl chat now)

theorem gone_run (was : (run step (newWithSubscriber primaryUrl chat now) first).Held conn)
    (left : ¬(run step (newWithSubscriber primaryUrl chat now) (first ++ second)).Held conn) :
    ¬(run step (newWithSubscriber primaryUrl chat now) (first ++ second ++ third)).Held conn := by
  have placed := (fresh_run primaryUrl chat now first).placed was
  have later := run_keeps (Placed · conn) (fun _ event placed => placed_step placed event) second
    placed
  rw [← run_append] at later
  rw [run_append]
  exact absent_run later left third

end

/-- In every run slot 0 holds the primary relay, no two calls are about to seat the same connection,
none is about to seat one that a slot holds, and a connection that has left the slots is never
seated again. -/
theorem connections_seated_once (primaryUrl : String) (chat : Option ChatState) (now : Nat)
    (events : List Event) :
    let state := run step (newWithSubscriber primaryUrl chat now) events
    state.homes.relay 0 = some state.primaryUrl ∧
      (∀ call progress conn, state.calls.get? call = some progress →
        progress.pending = some conn → ¬state.Held conn ∧
          ∀ other plan, state.calls.get? other = some plan → plan.pending = some conn →
            call = other) ∧
      ∀ conn later more, state.Held conn → ¬(run step state later).Held conn →
        ¬(run step state (later ++ more)).Held conn := by
  have fresh := fresh_run primaryUrl chat now events
  refine ⟨relay_zero_run primaryUrl chat now events, ?_, ?_⟩
  · intro call progress conn there pending
    refine ⟨(fresh.pending call progress conn there pending).2, ?_⟩
    intro other plan found seated
    exact fresh.unique call other progress plan conn there found pending seated
  · intro conn later more held left
    rw [run_append]
    refine absent_run ?_ left more
    exact run_keeps (Placed · conn) (fun _ event placed => placed_step placed event) later
      (fresh.placed held)

def conns (state : MultiHomeTransport) : List Nat :=
  (List.finRange 3).filterMap fun i => (state.slots i).map Slot.conn

theorem length_conns_le (state : MultiHomeTransport) : state.conns.length ≤ 3 := by
  exact (List.length_filterMap_le _ _).trans (by rw [List.length_finRange])

theorem mem_conns (h : state.Held conn) : conn ∈ state.conns := by
  obtain ⟨i, there⟩ := h
  exact List.mem_filterMap.mpr ⟨i, List.mem_finRange i, there⟩

theorem fanIn_absent (sound : state.Sound) (absent : ¬state.Held conn) (turn : Nat) :
    (state.step (.fanIn conn turn)).pipeline = state.pipeline := by
  have empty : state.pipeline.slots conn = [] := by
    by_contra waiting
    exact absent (sound.channels conn waiting)
  unfold step act fanIn
  dsimp only
  split
  · exact Pipeline.fanIn_of_empty empty turn
  · rfl

/-- Suppose that deliveries come on seated connections only and that a connection leaves its slot
only with an empty channel and, outside slot 0, while no send uses it. Then every fan-in that can
still dispatch belongs to a connection that is seated or that a call is about to seat or to shut
down, at most three feed the dispatcher when no connection is in transit, and the fan-in of a
connection that left its slot hands on nothing. -/
theorem dropped_connections_silent (primaryUrl : String) (chat : Option ChatState) (now : Nat)
    (events : List Event) (tidy : Meets step Tidy (newWithSubscriber primaryUrl chat now) events) :
    let start := newWithSubscriber primaryUrl chat now
    let state := run step start events
    (∀ conn, state.CanDispatch conn → state.Held conn ∨ state.InTransit conn) ∧
      ((∀ conn, ¬state.InTransit conn) →
        ∃ feeding : List Nat, feeding.length ≤ 3 ∧
          ∀ conn, state.CanDispatch conn → conn ∈ feeding) ∧
      ∀ first second third conn turn, events = first ++ second ++ third →
        (run step start first).Held conn → ¬(run step start (first ++ second)).Held conn →
          (state.step (.fanIn conn turn)).pipeline = state.pipeline := by
  have sound := run_invariant Sound (fun _ _ sound tidy => sound.step tidy) events _
    (sound_start primaryUrl chat now) tidy
  refine ⟨fun conn => sound.canDispatch, ?_, ?_⟩
  · intro settled
    refine ⟨_, length_conns_le (run step (newWithSubscriber primaryUrl chat now) events), ?_⟩
    intro conn dispatches
    exact mem_conns ((sound.canDispatch dispatches).resolve_right (settled conn))
  · intro first second third conn turn split was left
    apply fanIn_absent sound
    rw [split]
    exact gone_run primaryUrl chat now was left

def relayedFrame : Proto.Envelope.TransitEnvelope := idealEnvelope .dm bobGroup 5 bobKey []

/-- Three sends, one after the other. The first connection has handed on its delivery and serves
no send when the third takes its slot. -/
def quietEviction : List Event :=
  wholeSend 0 "x" 1 ++ [.deliver 1 0 relayedFrame, .fanIn 1 2] ++ wholeSend 0 "y" 3 ++
    wholeSend 0 "z" 4

theorem quiet_eviction_silent :
    let state := run step (newWithSubscriber "p" none 0) quietEviction
    ¬state.Held 1 ∧ state.pipeline.inbound.length = 1 ∧
      (state.step (.fanIn 1 9)).pipeline = state.pipeline := by
  refine ⟨by decide +kernel, by decide +kernel, ?_⟩
  apply (dropped_connections_silent "p" none 0 quietEviction (by decide +kernel)).2.2
    (wholeSend 0 "x" 1) ([.deliver 1 0 relayedFrame, .fanIn 1 2] ++ wholeSend 0 "y" 3 ++
      wholeSend 0 "z" 4) []
  · rfl
  · decide +kernel
  · decide +kernel

/-- The send on the first connection is still under way when its slot is taken. -/
def evictedInUse : List Event :=
  (wholeSend 0 "x" 1).dropLast ++ wholeSend 1 "y" 2 ++ wholeSend 1 "z" 3

/-- A delivery waits in the channel when the denylist empties the slot. -/
def droppedWithMail : List Event :=
  wholeSend 0 "x" 1 ++ [.deliver 1 0 relayedFrame, blockRelay "x"]

/-- Four connections feed the dispatcher after an eviction, and a delivery on the evicted one is
handed on; so is the envelope of a relay that the denylist has dropped. -/
theorem dropped_relays_still_heard :
    let evicted := run step (newWithSubscriber "p" none 0) evictedInUse
    let dropped := run step (newWithSubscriber "p" none 0) droppedWithMail
    (¬evicted.Held 1 ∧ (∀ conn ∈ [0, 1, 2, 3], evicted.CanDispatch conn) ∧
        evicted.pipeline.inbound.length = 0 ∧
        (run step evicted [.deliver 1 0 relayedFrame, .fanIn 1 9]).pipeline.inbound.length = 1) ∧
      (dropped.Quiescent ∧ ¬dropped.Held 1 ∧ dropped.CanDispatch 1 ∧
        dropped.pipeline.inbound.length = 0 ∧
        (dropped.step (.fanIn 1 9)).pipeline.inbound.length = 1) := by
  decide +kernel

end MultiHomeTransport

end Fetchit.Chat
