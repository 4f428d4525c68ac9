import Fetchit.Transport.MultiHome

/-! What the slot table can hold. Slot 0 always hosts the primary relay. A relay can be hosted
twice, or come back after its block event, because a slot is written without a second look at the
table: another call may have changed it while the connection was built. -/
namespace Fetchit.Chat.MultiHomeTransport
open Lib Lib.Run

namespace Homes
variable (homes : Homes)

def relay (i : Fin 3) : Option String := (homes.seats i).map Prod.fst

def Distinct : Prop :=
  ∀ i j url, homes.relay i = some url → homes.relay j = some url → i = j

def Cleared : Prop := ∀ i url, i ≠ pinnedSlot → homes.relay i = some url → url ∉ homes.blocked

/-- A relay is seated where no other slot hosts it, and in slot 0 unless it was blocked. -/
def Welcomes : Effect → Prop
  | .host i url _ =>
    (∀ j, j ≠ i → homes.relay j ≠ some url) ∧ (i = pinnedSlot ∨ url ∉ homes.blocked)
  | _ => True

instance decidableWelcomes : ∀ effect, Decidable (homes.Welcomes effect)
  | .keep => isTrue trivial
  | .drop _ => isTrue trivial
  | .host _ _ _ => inferInstanceAs (Decidable (_ ∧ _))

variable {homes}

theorem relay_host (i j : Fin 3) (url : String) (conn : Nat) :
    (homes.apply (.host i url conn)).relay j = if j = i then some url else homes.relay j := by
  unfold relay Homes.apply
  dsimp only
  by_cases same : j = i
  · rw [if_pos same, same, Function.update_self]
    rfl
  · rw [if_neg same, Function.update_of_ne same]

theorem relay_drop (h : (homes.apply (.drop added)).relay i = some url) :
    homes.relay i = some url ∧ (i ≠ 0 → url ∉ added) := by
  unfold relay Homes.apply at h
  dsimp only at h
  by_cases zero : i = 0
  · rw [if_pos zero, ← zero] at h
    exact ⟨h, fun nonzero => absurd zero nonzero⟩
  · rw [if_neg zero] at h
    obtain ⟨seat, kept, rfl⟩ := Option.map_eq_some_iff.mp h
    obtain ⟨there, open_⟩ := Option.filter_eq_some_iff.mp kept
    refine ⟨?_, fun _ => by simpa using open_⟩
    unfold relay
    rw [there]
    rfl

theorem Distinct.apply {effect : Effect} (h : homes.Distinct) (welcome : homes.Welcomes effect) :
    (homes.apply effect).Distinct := by
  cases effect with
  | keep => exact h
  | drop added =>
    intro i j url here there
    exact h i j url (relay_drop here).1 (relay_drop there).1
  | host k url conn =>
    intro i j other here there
    rw [relay_host] at here there
    by_cases first : i = k
    · rw [if_pos first] at here
      by_cases second : j = k
      · rw [first, second]
      · rw [if_neg second, ← here] at there
        exact absurd there (welcome.1 j second)
    · rw [if_neg first] at here
      by_cases second : j = k
      · rw [if_pos second] at there
        rw [← there] at here
        exact absurd here (welcome.1 i first)
      · rw [if_neg second] at there
        exact h i j other here there

theorem Cleared.apply {effect : Effect} (h : homes.Cleared) (welcome : homes.Welcomes effect) :
    (homes.apply effect).Cleared := by
  cases effect with
  | keep => exact h
  | drop added =>
    intro i url nonzero here blocked
    obtain ⟨before, kept⟩ := relay_drop here
    rcases List.mem_append.mp blocked with fresh | old
    · exact kept nonzero fresh
    · exact h i url nonzero before old
  | host k url conn =>
    intro i other nonzero here
    rw [relay_host] at here
    by_cases seated : i = k
    · rw [if_pos seated] at here
      cases here
      exact welcome.2.resolve_left (seated ▸ nonzero)
    · rw [if_neg seated] at here
      exact h i other nonzero here

theorem relay_zero_apply (effect : Effect) (h : homes.relay 0 = some homes.primaryUrl) :
    (homes.apply effect).relay 0 = some (homes.apply effect).primaryUrl := by
  cases effect with
  | keep | drop => exact h
  | host k url conn =>
    rw [relay_host]
    unfold Homes.apply
    dsimp only
    by_cases zero : k = 0
    · rw [if_pos zero.symm, if_pos zero]
    · rw [if_neg (Ne.symm zero), if_neg zero, h]

end Homes

def Quiescent (state : MultiHomeTransport) : Prop := state.calls.entries = []

instance decidableQuiescent (state : MultiHomeTransport) : Decidable state.Quiescent :=
  inferInstanceAs (Decidable (state.calls.entries = []))

/-- The relay that a call seats is not hosted elsewhere by then, nor blocked. -/
def Orderly (state : MultiHomeTransport) (event : Event) : Prop :=
  state.homes.Welcomes (state.effect event)

instance decidableOrderly (state : MultiHomeTransport) (event : Event) :
    Decidable (state.Orderly event) :=
  Homes.decidableWelcomes state.homes (state.effect event)

section
variable (primaryUrl : String) (chat : Option ChatState) (now : Nat)

theorem relay_start (i : Fin 3) :
    (newWithSubscriber primaryUrl chat now).homes.relay i =
      if i = 0 then some primaryUrl else none := by
  unfold Homes.relay homes newWithSubscriber
  dsimp only
  by_cases zero : i = 0
  · rw [zero]
    rfl
  · rw [if_neg zero, Function.update_of_ne zero]
    rfl

theorem distinct_start : (newWithSubscriber primaryUrl chat now).homes.Distinct := by
  intro i j url here there
  rw [relay_start] at here there
  by_cases first : i = 0
  · by_cases second : j = 0
    · rw [first, second]
    · rw [if_neg second] at there
      cases there
  · rw [if_neg first] at here
    cases here

theorem cleared_start : (newWithSubscriber primaryUrl chat now).homes.Cleared := by
  intro i url nonzero here
  rw [relay_start, if_neg nonzero] at here
  cases here

theorem relay_zero_run (events : List Event) :
    let state := run step (newWithSubscriber primaryUrl chat now) events
    state.homes.relay 0 = some state.primaryUrl := by
  apply run_keeps (fun state : MultiHomeTransport => state.homes.relay 0 = some state.primaryUrl)
    _ events
  · exact relay_start primaryUrl chat now 0
  · intro state event hosted
    have kept := Homes.relay_zero_apply (state.effect event) hosted
    rw [← homes_step] at kept
    exact kept

theorem homes_run (events : List Event)
    (orderly : Meets step Orderly (newWithSubscriber primaryUrl chat now) events) :
    let state := run step (newWithSubscriber primaryUrl chat now) events
    state.homes.Distinct ∧ state.homes.Cleared := by
  apply run_invariant (fun state => state.homes.Distinct ∧ state.homes.Cleared) _ events _ _ orderly
  · intro state event held welcome
    rw [homes_step]
    exact ⟨held.1.apply welcome, held.2.apply welcome⟩
  · exact ⟨distinct_start primaryUrl chat now, cleared_start primaryUrl chat now⟩

/-- In every state of a run slot 0 hosts the primary relay. If every relay was seated where no
other slot hosted it and, outside slot 0, before its block event, then no relay is hosted twice
and slots 1 and 2 host no blocked relay. The state need not be quiescent. -/
theorem slots_consistent (events : List Event) :
    let state := run step (newWithSubscriber primaryUrl chat now) events
    state.homes.relay 0 = some state.primaryUrl ∧
      (Meets step Orderly (newWithSubscriber primaryUrl chat now) events →
        state.homes.Distinct ∧ state.homes.Cleared) :=
  ⟨relay_zero_run primaryUrl chat now events, homes_run primaryUrl chat now events⟩

end

def nothingBlocked (_ : Trust.EntryKind) (_ : String) : Bool := false

def wholeSend (call : Nat) (url : String) (now : Nat) : List Event :=
  [.send call "r" [url] nothingBlocked now, .choose call, .build call (.ok ()), .install call now,
    .sent call]

def wholeSwap (call : Nat) (url : String) (now : Nat) : List Event :=
  [.replacePrimary call url, .build call (.ok ()), .commit call true now, .drained call]

def blockRelay (url : String) : Event := .block ⟨.relayUrl, [url], []⟩

def calmEvents : List Event :=
  wholeSend 0 "a" 1 ++ wholeSend 0 "b" 2 ++ wholeSwap 0 "c" 3 ++ [blockRelay "a"]

theorem calm_run_consistent :
    (run step (newWithSubscriber "p" none 0) calmEvents).homes.Distinct ∧
      (run step (newWithSubscriber "p" none 0) calmEvents).homes.Cleared ∧
      (run step (newWithSubscriber "p" none 0) calmEvents).homes.relay 2 = some "b" :=
  have consistent := (slots_consistent "p" none 0 calmEvents).2 (by decide +kernel)
  ⟨consistent.1, consistent.2, by decide +kernel⟩

/-- Two sends to one relay overlap. The second looks for a slot after the first has taken
slot 1, and takes slot 2. -/
def twinSends : List Event :=
  [.send 0 "a" ["x"] nothingBlocked 1, .send 1 "b" ["x"] nothingBlocked 1, .choose 0,
    .build 0 (.ok ()), .install 0 2, .choose 1, .build 1 (.ok ()), .install 1 3, .sent 0, .sent 1]

def blockedSend : List Event :=
  [.send 0 "a" ["x"] nothingBlocked 1, .choose 0, blockRelay "x", .build 0 (.ok ()), .install 0 2,
    .sent 0]

/-- Overlapping sends seat one relay twice, a swap seats the relay of slot 1 in slot 0 as well,
and a send seats a relay after its block event was handled. All three end with no call under
way. -/
theorem overlapping_calls_break_table :
    let twins := run step (newWithSubscriber "p" none 0) twinSends
    let swapped := run step (newWithSubscriber "p" none 0) (wholeSend 0 "x" 1 ++ wholeSwap 0 "x" 2)
    let late := run step (newWithSubscriber "p" none 0) blockedSend
    (twins.Quiescent ∧ twins.homes.relay 1 = some "x" ∧ twins.homes.relay 2 = some "x") ∧
      (swapped.Quiescent ∧ swapped.homes.relay 0 = some "x" ∧ swapped.homes.relay 1 = some "x") ∧
      (late.Quiescent ∧ late.homes.relay 1 = some "x" ∧ "x" ∈ late.homes.blocked) := by
  decide +kernel

end Fetchit.Chat.MultiHomeTransport
