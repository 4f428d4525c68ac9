import Fetchit.Lib.SortedMap
import Fetchit.Transport.FanIn
import Fetchit.Trust.Types

/-! The slot table of the multi-home transport. Sends, swaps of the primary relay and the denylist
subscriber interleave. Each of them visits the table in short critical sections with awaits in
between, and every critical section is one step here. A connection lives as long as a slot or a
call holds its handle; its fan-in empties the channel even after that. -/
namespace Fetchit.Chat
open Lib Proto.Envelope Trust Function

inductive TransportError where
  | buildFailed (reason : String)
  | blocked (reason : String)
  | swapNotLive (url : String)
  deriving DecidableEq

structure BlockEvent where
  kind : EntryKind
  added : List String
  removed : List String
  deriving DecidableEq

/-- An occupied slot; connections are numbered in the order in which they were built. -/
structure Slot where
  relayUrl : String
  conn : Nat
  lastTrafficAt : Nat
  deriving DecidableEq

abbrev pinnedSlot : Fin 3 := 0

/-- Where a call stands between two critical sections. The first four belong to a send, whose
victim is slot 1 or slot 2, and the others to a swap of the primary. -/
inductive CallStage where
  | choosing (url : String)
  | building (url : String) (victim : Fin 2)
  | built (url : String) (victim : Fin 2) (conn : Nat)
  | sending (conn : Nat)
  | dialing (url : String)
  | awaiting (url : String) (conn : Nat)
  | draining (conn : Nat)
  deriving DecidableEq

def CallStage.conn : CallStage → Option Nat
  | .choosing _ | .building _ _ | .dialing _ => none
  | .built _ _ conn | .sending conn | .awaiting _ conn | .draining conn => some conn

def CallStage.pending : CallStage → Option Nat
  | .built _ _ conn | .awaiting _ conn => some conn
  | .choosing _ | .building _ _ | .sending _ | .dialing _ | .draining _ => none

def CallStage.transit : CallStage → Option Nat
  | .built _ _ conn | .awaiting _ conn | .draining conn => some conn
  | .choosing _ | .building _ _ | .sending _ | .dialing _ => none

/-- `fanIns` lists the fan-in tasks that were not aborted, and `blocked` the relays of the block
events that the subscriber has handled. -/
structure MultiHomeTransport where
  primaryUrl : String
  slots : Fin 3 → Option Slot
  calls : SortedMap Nat CallStage
  fanIns : List Nat
  nextConn : Nat
  pipeline : Pipeline
  blocked : List String

namespace MultiHomeTransport

def newWithSubscriber (primaryUrl : String) (chat : Option ChatState) (now : Nat) :
    MultiHomeTransport where
  primaryUrl := primaryUrl
  slots := update (fun _ => none) 0 (some ⟨primaryUrl, 0, now⟩)
  calls := .empty
  fanIns := [0]
  nextConn := 1
  pipeline := .boot chat
  blocked := []

variable (state : MultiHomeTransport)

def Held (conn : Nat) : Prop := ∃ i, (state.slots i).map Slot.conn = some conn

instance decidableHeld (conn : Nat) : Decidable (state.Held conn) :=
  inferInstanceAs (Decidable (∃ i, (state.slots i).map Slot.conn = some conn))

def InUse (conn : Nat) : Prop := ∃ entry ∈ state.calls.entries, entry.2.conn = some conn

instance decidableInUse (conn : Nat) : Decidable (state.InUse conn) :=
  inferInstanceAs (Decidable (∃ entry ∈ state.calls.entries, entry.2.conn = some conn))

def setCall (call : Nat) : Option CallStage → MultiHomeTransport
  | some progress => { state with calls := state.calls.insert call progress }
  | none => { state with calls := state.calls.erase call }

def connect (call : Nat) (progress : Nat → CallStage) : MultiHomeTransport :=
  { state.setCall call (some (progress state.nextConn)) with
    fanIns := state.nextConn :: state.fanIns
    nextConn := state.nextConn + 1 }

def close (conn : Nat) : MultiHomeTransport :=
  { state with
    fanIns := state.fanIns.filter fun other => other ≠ conn
    pipeline := state.pipeline.teardown conn }

def hosting (url : String) : Option (Fin 3 × Slot) :=
  (List.finRange 3).findSome? fun i =>
    (state.slots i).bind fun slot => if slot.relayUrl = url then some (i, slot) else none

def sendInner (call : Nat) (recipient : String) (relays : List String)
    (isBlocked : EntryKind → String → Bool) (now : Nat) :
    Option TransportError × MultiHomeTransport :=
  match relays.head? with
  | none => (some (.buildFailed "hints.relays empty"), state)
  | some url =>
    if isBlocked .relayUrl url then (some (.blocked ("relay denylisted: " ++ url)), state)
    else if isBlocked .agentId recipient then
      (some (.blocked ("agent denylisted: " ++ recipient)), state)
    else
      match state.hosting url with
      | some (i, slot) =>
        let slots := update state.slots i (some { slot with lastTrafficAt := now })
        (none, { state.setCall call (some (.sending slot.conn)) with slots := slots })
      | none => (none, state.setCall call (some (.choosing url)))

def victim : Fin 2 :=
  match state.slots 1, state.slots 2 with
  | none, _ => 0
  | some _, none => 1
  | some first, some second => if first.lastTrafficAt ≤ second.lastTrafficAt then 0 else 1

def choose (call : Nat) : MultiHomeTransport :=
  match state.calls.get? call with
  | some (.choosing url) => state.setCall call (some (.building url state.victim))
  | _ => state

def build (call : Nat) (outcome : Except TransportError Unit) :
    Option TransportError × MultiHomeTransport :=
  match state.calls.get? call, outcome with
  | some (.building url victim), .ok _ => (none, state.connect call (.built url victim))
  | some (.dialing url), .ok _ => (none, state.connect call (.awaiting url))
  | some (.building _ _), .error error => (some error, state.setCall call none)
  | some (.dialing _), .error error => (some error, state.setCall call none)
  | _, _ => (none, state)

/-- The chosen slot is overwritten whatever it holds by now. -/
def install (call now : Nat) : MultiHomeTransport :=
  match state.calls.get? call with
  | some (.built url victim conn) =>
    let slots := update state.slots victim.succ (some ⟨url, conn, now⟩)
    { state.setCall call (some (.sending conn)) with slots := slots }
  | _ => state

def sent (call : Nat) : MultiHomeTransport :=
  match state.calls.get? call with
  | some (.sending _) => state.setCall call none
  | _ => state

/-- The end of the wait for the new session. Slot 0 and the primary URL change together. -/
def commit (call : Nat) (connected : Bool) (now : Nat) :
    Option TransportError × MultiHomeTransport :=
  match state.calls.get? call with
  | some (.awaiting url conn) =>
    if connected then
      let old := (state.slots 0).map fun slot => CallStage.draining slot.conn
      (none, { state.setCall call old with
        slots := update state.slots 0 (some ⟨url, conn, now⟩)
        primaryUrl := url })
    else (some (.swapNotLive url), (state.setCall call none).close conn)
  | _ => (none, state)

def drained (call : Nat) : MultiHomeTransport :=
  match state.calls.get? call with
  | some (.draining conn) => (state.setCall call none).close conn
  | _ => state

/-- The subscriber empties slots 1 and 2, never slot 0. -/
def handleBlock (event : BlockEvent) : MultiHomeTransport :=
  if event.kind ≠ .relayUrl ∨ event.added.isEmpty then state
  else
    { state with
      slots := fun i =>
        if i = 0 then state.slots 0
        else (state.slots i).filter fun slot => slot.relayUrl ∉ event.added
      blocked := event.added ++ state.blocked }

/-- The pump runs until the last handle of the connection is dropped or its session is shut
down. -/
def deliver (conn transitSeq : Nat) (envelope : TransitEnvelope) : MultiHomeTransport :=
  if conn ∈ state.fanIns ∧ (state.Held conn ∨ state.InUse conn) then
    { state with pipeline := state.pipeline.pump conn transitSeq envelope }
  else state

def fanIn (conn now : Nat) : MultiHomeTransport :=
  if conn ∈ state.fanIns then { state with pipeline := state.pipeline.fanIn conn now } else state

inductive Event where
  | send (call : Nat) (recipient : String) (relays : List String)
      (isBlocked : EntryKind → String → Bool) (now : Nat)
  | choose (call : Nat)
  | build (call : Nat) (outcome : Except TransportError Unit)
  | install (call now : Nat)
  | sent (call : Nat)
  | replacePrimary (call : Nat) (url : String)
  | commit (call : Nat) (connected : Bool) (now : Nat)
  | drained (call : Nat)
  | block (event : BlockEvent)
  | deliver (conn transitSeq : Nat) (envelope : TransitEnvelope)
  | fanIn (conn now : Nat)

/-- One critical section, with the error that the call returns there. A number names one call at
a time. -/
def act : Event → Option TransportError × MultiHomeTransport
  | .send call recipient relays isBlocked now =>
    match state.calls.get? call with
    | some _ => (none, state)
    | none => state.sendInner call recipient relays isBlocked now
  | .choose call => (none, state.choose call)
  | .build call outcome => state.build call outcome
  | .install call now => (none, state.install call now)
  | .sent call => (none, state.sent call)
  | .replacePrimary call url =>
    match state.calls.get? call with
    | some _ => (none, state)
    | none => (none, state.setCall call (some (.dialing url)))
  | .commit call connected now => state.commit call connected now
  | .drained call => (none, state.drained call)
  | .block event => (none, state.handleBlock event)
  | .deliver conn transitSeq envelope => (none, state.deliver conn transitSeq envelope)
  | .fanIn conn now => (none, state.fanIn conn now)

def step (event : Event) : MultiHomeTransport := (state.act event).2

inductive Effect where
  | keep
  | host (i : Fin 3) (url : String) (conn : Nat)
  | drop (added : List String)
  deriving DecidableEq

def effect : Event → Effect
  | .install call _ =>
    match state.calls.get? call with
    | some (.built url victim conn) => .host victim.succ url conn
    | _ => .keep
  | .commit call connected _ =>
    match state.calls.get? call with
    | some (.awaiting url conn) => if connected then .host 0 url conn else .keep
    | _ => .keep
  | .block event =>
    if event.kind ≠ .relayUrl ∨ event.added.isEmpty then .keep else .drop event.added
  | _ => .keep

/-- The table without its times: the relay and the connection of each slot. -/
structure Homes where
  seats : Fin 3 → Option (String × Nat)
  primaryUrl : String
  blocked : List String

def Homes.apply (homes : Homes) : Effect → Homes
  | .keep => homes
  | .host i url conn =>
    { homes with
      seats := update homes.seats i (some (url, conn))
      primaryUrl := if i = 0 then url else homes.primaryUrl }
  | .drop added =>
    { homes with
      seats := fun i =>
        if i = 0 then homes.seats 0 else (homes.seats i).filter fun seat => seat.1 ∉ added
      blocked := added ++ homes.blocked }

def seat (slot : Slot) : String × Nat := (slot.relayUrl, slot.conn)

def homes : Homes := ⟨fun i => (state.slots i).map seat, state.primaryUrl, state.blocked⟩

variable {state}

theorem hosting_eq_some
    (h : state.hosting url = some (i, slot)) : state.slots i = some slot ∧ slot.relayUrl = url := by
  obtain ⟨j, _, found⟩ := List.exists_of_findSome?_eq_some h
  obtain ⟨other, there, same⟩ := Option.bind_eq_some_iff.mp found
  split at same
  · rename_i url
    cases same
    exact ⟨there, url⟩
  · cases same

theorem map_seat_update (slots : Fin 3 → Option Slot) (i : Fin 3) (slot : Slot) :
    (fun j => (update slots i (some slot) j).map seat) =
      update (fun j => (slots j).map seat) i (some (seat slot)) := by
  funext j
  by_cases same : j = i
  · subst same
    simp
  · simp [same]

theorem map_seat_refresh {slots : Fin 3 → Option Slot} (now : Nat) (there : slots i = some slot) :
    (fun j => (update slots i (some { slot with lastTrafficAt := now }) j).map seat) =
      fun j => (slots j).map seat := by
  rw [map_seat_update, update_eq_self_iff, there]
  rfl

theorem homes_sendInner (call : Nat) (recipient : String) (relays : List String)
    (isBlocked : EntryKind → String → Bool) (now : Nat) :
    (state.sendInner call recipient relays isBlocked now).2.homes = state.homes := by
  unfold sendInner
  split
  · rfl
  · split
    · rfl
    · split
      · rfl
      · split
        · rename_i i slot found
          unfold homes
          rw [map_seat_refresh now (hosting_eq_some found).1]
          rfl
        · rfl

theorem homes_build (call : Nat) (outcome : Except TransportError Unit) :
    (state.build call outcome).2.homes = state.homes := by
  unfold build
  split <;> rfl

theorem homes_install (call now : Nat) :
    (state.install call now).homes = state.homes.apply (state.effect (.install call now)) := by
  unfold install effect
  dsimp only
  split
  · unfold homes Homes.apply
    rw [map_seat_update]
    rfl
  · rfl

theorem homes_commit (call : Nat) (connected : Bool) (now : Nat) :
    (state.commit call connected now).2.homes =
      state.homes.apply (state.effect (.commit call connected now)) := by
  unfold commit effect
  dsimp only
  split
  · cases connected with
    | false => rfl
    | true =>
      rw [if_pos rfl]
      unfold homes Homes.apply
      rw [map_seat_update]
      cases state.slots 0 <;> rfl
  · rfl

theorem homes_handleBlock (event : BlockEvent) :
    (state.handleBlock event).homes = state.homes.apply (state.effect (.block event)) := by
  unfold handleBlock effect
  dsimp only
  by_cases ignored : event.kind ≠ .relayUrl ∨ event.added.isEmpty
  · rw [if_pos ignored, if_pos ignored]
    rfl
  · rw [if_neg ignored, if_neg ignored]
    unfold homes Homes.apply
    dsimp only
    congr 1
    funext i
    by_cases zero : i = 0
    · rw [if_pos zero, if_pos zero]
    · rw [if_neg zero, if_neg zero, Option.filter_map]
      rfl

theorem homes_step (event : Event) :
    (state.step event).homes = state.homes.apply (state.effect event) := by
  cases event with
  | send call recipient relays isBlocked now =>
    unfold step act
    dsimp only
    split
    · rfl
    · exact homes_sendInner call recipient relays isBlocked now
  | choose call =>
    unfold step act choose
    dsimp only
    split <;> rfl
  | build call outcome => exact homes_build call outcome
  | install call now => exact homes_install call now
  | sent call =>
    unfold step act sent
    dsimp only
    split <;> rfl
  | replacePrimary call url =>
    unfold step act
    dsimp only
    split <;> rfl
  | commit call connected now => exact homes_commit call connected now
  | drained call =>
    unfold step act drained
    dsimp only
    split <;> rfl
  | block event => exact homes_handleBlock event
  | deliver conn transitSeq envelope =>
    unfold step act deliver
    dsimp only
    split <;> rfl
  | fanIn conn now =>
    unfold step act fanIn
    dsimp only
    split <;> rfl

section
variable (state)

def Idle (call : Nat) : Prop := ∀ was, state.calls.get? call = some was → was.transit = none

/-- All that a critical section can do to the calls, the slots and the fan-ins. -/
inductive Moves : MultiHomeTransport → Prop where
  | pass {pipeline : Pipeline} : Moves { state with pipeline := pipeline }
  | plan {call : Nat} {progress : Option CallStage} (idle : state.Idle call)
      (unbound : ∀ plan, progress = some plan → plan.conn = none) :
      Moves (state.setCall call progress)
  | reuse {call : Nat} {i : Fin 3} {slot : Slot} (now : Nat) (idle : state.Idle call)
      (there : state.slots i = some slot) :
      Moves { state.setCall call (some (.sending slot.conn)) with
        slots := update state.slots i (some { slot with lastTrafficAt := now }) }
  | connect {call : Nat} {progress : Nat → CallStage} (idle : state.Idle call)
      (carried : ∀ conn, (progress conn).pending = some conn) : Moves (state.connect call progress)
  | install {call : Nat} {url : String} {victim : Fin 2} {conn : Nat} (now : Nat)
      (built : state.calls.get? call = some (.built url victim conn)) :
      Moves { state.setCall call (some (.sending conn)) with
        slots := update state.slots victim.succ (some ⟨url, conn, now⟩) }
  | swap {call : Nat} {url : String} {conn : Nat} (now : Nat)
      (awaiting : state.calls.get? call = some (.awaiting url conn)) :
      Moves { state.setCall call ((state.slots 0).map fun slot => .draining slot.conn) with
        slots := update state.slots 0 (some ⟨url, conn, now⟩)
        primaryUrl := url }
  | close {call conn : Nat} {was : CallStage} (there : state.calls.get? call = some was)
      (closing : was.transit = some conn) : Moves ((state.setCall call none).close conn)
  | block {slots : Fin 3 → Option Slot} {blocked : List String} (pinned : slots 0 = state.slots 0)
      (fewer : ∀ i slot, slots i = some slot → state.slots i = some slot) :
      Moves { state with slots := slots, blocked := blocked }

end

variable {call : Nat}

theorem idle_of_get? (h : state.calls.get? call = found)
    (idle : ∀ was, found = some was → was.transit = none) : state.Idle call := by
  intro was there
  exact idle was (h.symm.trans there)

theorem Moves.goOn (idle : state.Idle call) (unbound : progress.conn = none) :
    state.Moves (state.setCall call (some progress)) :=
  .plan idle (by rintro _ ⟨⟩; exact unbound)

theorem Moves.return (idle : state.Idle call) :
    state.Moves (state.setCall call none) :=
  .plan idle (by rintro _ ⟨⟩)

theorem moves_sendInner (free : state.calls.get? call = none) :
    state.Moves (state.sendInner call recipient relays isBlocked now).2 := by
  have idle : state.Idle call := idle_of_get? free (by rintro _ ⟨⟩)
  unfold sendInner
  split
  · exact .pass
  · split
    · exact .pass
    · split
      · exact .pass
      · split
        · rename_i i slot found
          exact .reuse now idle (hosting_eq_some found).1
        · exact .goOn idle rfl

theorem moves_build (call : Nat) (outcome : Except TransportError Unit) :
    state.Moves (state.build call outcome).2 := by
  unfold build
  split
  · rename_i there
    exact .connect (idle_of_get? there (by rintro _ ⟨⟩; rfl)) (fun _ => rfl)
  · rename_i there
    exact .connect (idle_of_get? there (by rintro _ ⟨⟩; rfl)) (fun _ => rfl)
  · rename_i there
    exact .return (idle_of_get? there (by rintro _ ⟨⟩; rfl))
  · rename_i there
    exact .return (idle_of_get? there (by rintro _ ⟨⟩; rfl))
  · exact .pass

theorem moves_commit (call : Nat) (connected : Bool) (now : Nat) :
    state.Moves (state.commit call connected now).2 := by
  unfold commit
  split
  · rename_i url conn awaiting
    cases connected with
    | false => exact .close awaiting rfl
    | true => exact .swap now awaiting
  · exact .pass

theorem moves_handleBlock (event : BlockEvent) : state.Moves (state.handleBlock event) := by
  unfold handleBlock
  split
  · exact .pass
  · apply Moves.block
    · rfl
    · intro i slot there
      split at there
      · rename_i zero
        rw [zero]
        exact there
      · exact (Option.filter_eq_some_iff.mp there).1

theorem moves_step (event : Event) : state.Moves (state.step event) := by
  cases event with
  | send call recipient relays isBlocked now =>
    unfold step act
    dsimp only
    split
    · exact .pass
    · rename_i free
      exact moves_sendInner free
  | choose call =>
    unfold step act choose
    dsimp only
    split
    · rename_i there
      exact .goOn (idle_of_get? there (by rintro _ ⟨⟩; rfl)) rfl
    · exact .pass
  | build call outcome => exact moves_build call outcome
  | install call now =>
    unfold step act install
    dsimp only
    split
    · rename_i built
      exact .install now built
    · exact .pass
  | sent call =>
    unfold step act sent
    dsimp only
    split
    · rename_i there
      exact .return (idle_of_get? there (by rintro _ ⟨⟩; rfl))
    · exact .pass
  | replacePrimary call url =>
    unfold step act
    dsimp only
    split
    · exact .pass
    · rename_i free
      exact .goOn (idle_of_get? free (by rintro _ ⟨⟩)) rfl
  | commit call connected now => exact moves_commit call connected now
  | drained call =>
    unfold step act drained
    dsimp only
    split
    · rename_i draining
      exact .close draining rfl
    · exact .pass
  | block event => exact moves_handleBlock event
  | deliver conn transitSeq envelope =>
    unfold step act deliver
    dsimp only
    split <;> exact .pass
  | fanIn conn now =>
    unfold step act fanIn
    dsimp only
    split <;> exact .pass

end MultiHomeTransport

end Fetchit.Chat
