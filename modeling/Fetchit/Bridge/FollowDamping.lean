import Fetchit.Bridge.Retraction

/-! The spacing of follow deliveries. A pass looks at the mark of an item, and later marks and
delivers it; other passes may do the same in between. The marks are kept under the id of the
activity alone. -/
namespace Fetchit.Bridge.FollowDamping
open Lib Lib.Run

def reassertMinAgeMs : Nat := 10 * 60 * 1000

def reassertCooldownMs : Nat := 30 * 60 * 1000

def outboundMarkKey (followId : String) : String := "out:" ++ followId

def shouldReassert (nowMs createdMs : UInt64) (lastAttemptMs : Option UInt64) : Bool :=
  if nowMs.toNat - createdMs.toNat < reassertMinAgeMs then false
  else match lastAttemptMs with
    | some last => reassertCooldownMs ≤ nowMs.toNat - last.toNat
    | none => true

/-- A queued request, or a pending row of the following list; `inbox` tells whether there is an
address that parses. -/
inductive Item where
  | accept (entry : FollowRequestEntry) (inbox : Bool)
  | reassert (followId : String) (createdMs : UInt64) (inbox : Bool)
  deriving DecidableEq

def Item.key : Item → String
  | .accept entry _ => inboundMarkKey entry.followActivityId
  | .reassert followId .. => outboundMarkKey followId

def Item.cooldown : Item → Nat
  | .accept .. => acceptRetryCooldownMs
  | .reassert .. => reassertCooldownMs

def Item.due (nowMs : UInt64) (last : Option UInt64) : Item → Bool
  | .accept .. => shouldAttemptAccept nowMs last
  | .reassert _ createdMs _ => shouldReassert nowMs createdMs last

structure Attempt where
  item : Item
  nowMs : UInt64
  deriving DecidableEq

structure State where
  marks : SortedMap String UInt64
  /-- Items found due and not yet marked. -/
  checked : List Attempt
  /-- Oldest last. -/
  deliveries : List Attempt

def start : State := ⟨.empty, [], []⟩

/-- The denylist is asked between the two. -/
inductive Event where
  | check (attempt : Attempt)
  | mark (attempt : Attempt) (denylisted : Bool)
  deriving DecidableEq

def Event.attempt : Event → Attempt
  | .check attempt | .mark attempt _ => attempt

def State.isDue (state : State) (attempt : Attempt) : Bool :=
  attempt.item.due attempt.nowMs (state.marks.get? attempt.item.key)

def Item.marked : Item → Bool
  | .accept .. => true
  | .reassert _ _ inbox => inbox

def Item.delivered (denylisted : Bool) : Item → Bool
  | .accept _ inbox => !denylisted && inbox
  | .reassert _ _ inbox => inbox

def step (state : State) : Event → State
  | .check attempt =>
    if state.isDue attempt then { state with checked := attempt :: state.checked } else state
  | .mark attempt denylisted =>
    if attempt ∈ state.checked then
      { marks :=
          if attempt.item.marked then
            markAttempt state.marks attempt.item.key attempt.nowMs
          else state.marks
        checked := state.checked.erase attempt
        deliveries :=
          if attempt.item.delivered denylisted then attempt :: state.deliveries
          else state.deliveries }
    else state

/-- No item is looked at while another of its key is between the two steps, and the marks are
never so many that they are reset. -/
def Orderly (state : State) : Event → Prop
  | .check attempt => ∀ other ∈ state.checked, other.item.key ≠ attempt.item.key
  | .mark .. => state.marks.entries.length ≤ maxTrackedMarks

instance (state : State) (event : Event) : Decidable (Orderly state event) := by
  unfold Orderly
  split <;> infer_instance

variable {state : State} {attempt : Attempt} {event : Event}

theorem inbound_ne_outbound (first second : String) :
    ¬ inboundMarkKey first = outboundMarkKey second := by
  intro same
  have heads := congrArg (·.toList.head?) same
  simp [inboundMarkKey, outboundMarkKey] at heads

theorem cooldown_of_key {first second : Item} (same : first.key = second.key) :
    first.cooldown = second.cooldown := by
  cases first <;> cases second
  · rfl
  · cases inbound_ne_outbound _ _ same
  · cases inbound_ne_outbound _ _ same.symm
  · rfl

theorem cooled_of_isDue (due : state.isDue attempt = true)
    (marked : state.marks.get? attempt.item.key = some last) :
    last.toNat + attempt.item.cooldown ≤ attempt.nowMs.toNat := by
  unfold State.isDue at due
  rw [marked] at due
  have cooled : 0 < attempt.item.cooldown ∧
      attempt.item.cooldown ≤ attempt.nowMs.toNat - last.toNat := by
    cases item : attempt.item with
    | accept entry inbox =>
      rw [item] at due
      exact ⟨Nat.zero_lt_succ _, of_decide_eq_true due⟩
    | reassert followId createdMs inbox =>
      rw [item] at due
      simp only [Item.due, shouldReassert] at due
      split at due
      · cases due
      · exact ⟨Nat.zero_lt_succ _, of_decide_eq_true due⟩
  omega

theorem marked_of_delivered {item : Item}
    (delivered : item.delivered denylisted = true) : item.marked = true := by
  cases item with
  | accept => rfl
  | reassert => exact delivered

theorem get?_markAttempt (room : state.marks.entries.length ≤ maxTrackedMarks) (nowMs : UInt64)
    (key other : String) :
    (markAttempt state.marks key nowMs).get? other =
      if other = key then some nowMs else state.marks.get? other := by
  unfold markAttempt
  rw [if_neg (Nat.not_lt.mpr room), SortedMap.get?_insert]

/-- Items found due still are, one at a time of a key, and deliveries of a key are its cooldown
apart, up to its mark. -/
structure Spaced (state : State) : Prop where
  due : ∀ attempt ∈ state.checked, state.isDue attempt = true
  apart : (state.checked.map (·.item.key)).Nodup
  marked : ∀ attempt ∈ state.deliveries, ∃ last,
    state.marks.get? attempt.item.key = some last ∧ attempt.nowMs.toNat ≤ last.toNat
  spaced : state.deliveries.Pairwise fun later earlier => later.item.key = earlier.item.key →
    earlier.nowMs.toNat + earlier.item.cooldown ≤ later.nowMs.toNat

section
variable (spaced : Spaced state)
include spaced

theorem Spaced.check (orderly : ∀ other ∈ state.checked, other.item.key ≠ attempt.item.key)
    (due : state.isDue attempt = true) :
    Spaced { state with checked := attempt :: state.checked } where
  due := List.forall_mem_cons.mpr ⟨due, spaced.due⟩
  apart := by
    rw [List.map_cons, List.nodup_cons]
    refine ⟨?_, spaced.apart⟩
    intro mem
    obtain ⟨other, under, same⟩ := List.mem_map.mp mem
    exact orderly other under same
  marked := spaced.marked
  spaced := spaced.spaced

theorem Spaced.others (mem : attempt ∈ state.checked)
    (under : other ∈ state.checked.erase attempt) : other.item.key ≠ attempt.item.key := by
  have apart := spaced.apart
  rw [((List.perm_cons_erase mem).map (·.item.key)).nodup_iff, List.map_cons,
    List.nodup_cons] at apart
  intro same
  exact apart.1 (same ▸ List.mem_map_of_mem under)

theorem Spaced.mark (mem : attempt ∈ state.checked) (denylisted : Bool)
    (room : state.marks.entries.length ≤ maxTrackedMarks) :
    Spaced (step state (.mark attempt denylisted)) := by
  have earlier : ∀ old ∈ state.deliveries, attempt.item.key = old.item.key →
      old.nowMs.toNat + old.item.cooldown ≤ attempt.nowMs.toNat := by
    intro old delivered same
    obtain ⟨last, marked, before⟩ := spaced.marked old delivered
    rw [← same] at marked
    have cooled := cooled_of_isDue (spaced.due attempt mem) marked
    rw [cooldown_of_key same] at cooled
    omega
  have apart : ((state.checked.erase attempt).map (·.item.key)).Nodup :=
    spaced.apart.sublist (List.erase_sublist.map _)
  simp only [FollowDamping.step, if_pos mem]
  cases marked : attempt.item.marked with
  | false =>
    have kept : attempt.item.delivered denylisted = false := by
      by_contra delivered
      simp [marked_of_delivered (Bool.eq_true_of_not_eq_false delivered)] at marked
    rw [kept]
    exact ⟨fun other under => spaced.due other (List.mem_of_mem_erase under), apart,
      spaced.marked, spaced.spaced⟩
  | true =>
    have remarked : ∀ old ∈ state.deliveries, ∃ last,
        (markAttempt state.marks attempt.item.key attempt.nowMs).get? old.item.key = some last ∧
          old.nowMs.toNat ≤ last.toNat := by
      intro old delivered
      rw [get?_markAttempt room]
      split
      · next same =>
        have before := earlier old delivered same.symm
        exact ⟨attempt.nowMs, rfl, by omega⟩
      · exact spaced.marked old delivered
    refine ⟨?_, apart, ?_, ?_⟩
    · intro other under
      simp only [if_true, State.isDue]
      rw [get?_markAttempt room, if_neg (spaced.others mem under)]
      exact spaced.due other (List.mem_of_mem_erase under)
    · simp only [if_true]
      split
      · refine List.forall_mem_cons.mpr ⟨⟨attempt.nowMs, ?_, Nat.le_refl _⟩, remarked⟩
        rw [get?_markAttempt room, if_pos rfl]
      · exact remarked
    · dsimp only
      split
      · exact List.pairwise_cons.mpr ⟨earlier, spaced.spaced⟩
      · exact spaced.spaced

theorem Spaced.step (orderly : Orderly state event) :
    Spaced (step state event) := by
  cases event with
  | check attempt =>
    simp only [FollowDamping.step]
    split
    · next due => exact spaced.check orderly due
    · exact spaced
  | mark attempt denylisted =>
    by_cases mem : attempt ∈ state.checked
    · exact spaced.mark mem denylisted orderly
    · simp only [FollowDamping.step, if_neg mem]
      exact spaced

end

theorem isDue_step (orderly : Orderly state event)
    (other : event.attempt.item.key ≠ attempt.item.key) :
    (step state event).isDue attempt = state.isDue attempt := by
  cases event with
  | check checked =>
    simp only [FollowDamping.step]
    split <;> rfl
  | mark marked denylisted =>
    simp only [FollowDamping.step, Event.attempt] at other ⊢
    split
    · unfold State.isDue
      split
      · rw [get?_markAttempt orderly, if_neg (Ne.symm other)]
      · rfl
    · rfl

/-- If no item is looked at while another of its key is being attempted, the deliveries of a key are
its cooldown apart, and the items of other keys do not change whether an item is due. -/
theorem deliveries_damped (events : List Event) (orderly : Meets step Orderly start events) :
    ((run step start events).deliveries.Pairwise fun later earlier =>
      later.item.key = earlier.item.key →
        earlier.nowMs.toNat + earlier.item.cooldown ≤ later.nowMs.toNat) ∧
      ∀ event attempt, Orderly (run step start events) event →
        event.attempt.item.key ≠ attempt.item.key →
          (step (run step start events) event).isDue attempt =
            (run step start events).isDue attempt := by
  have spaced : Spaced (run step start events) :=
    run_invariant Spaced (fun _ _ held meets => held.step meets) events start
      ⟨nofun, List.nodup_nil, nofun, List.Pairwise.nil⟩ orderly
  exact ⟨spaced.spaced, fun _ _ => isDue_step⟩

/-! Two requests for the same actor. -/

def asked (follower : String) (nowMs : UInt64) :
    Attempt := ⟨.accept ⟨follower, "i", "1"⟩ true, nowMs⟩

theorem repeated_request_damped :
    ((run step start [.check (asked "x" 0), .mark (asked "x" 0) false, .check (asked "x" 600000),
      .mark (asked "x" 600000) false]).deliveries.Pairwise fun later earlier =>
        later.item.key = earlier.item.key →
          earlier.nowMs.toNat + earlier.item.cooldown ≤ later.nowMs.toNat) :=
  (deliveries_damped _ (by decide +kernel)).1

/-- Two passes look before either has marked, and both deliver. A follower whose request has the id
of another's is not answered. -/
theorem undamped_deliveries :
    (run step start [.check (asked "x" 0), .check (asked "x" 1), .mark (asked "x" 0) false,
      .mark (asked "x" 1) false]).deliveries = [asked "x" 1, asked "x" 0] ∧
    (run step start [.check (asked "x" 0), .mark (asked "x" 0) false]).isDue (asked "y" 1) = false ∧
    start.isDue (asked "y" 1) = true := by
  decide +kernel

end Fetchit.Bridge.FollowDamping
