import Fetchit.Lib.Run

/-! The presence of one agent. A registration or its end first changes the map of sessions and then
tells the watchers; a new watcher is told the state it finds. While a watcher is added it holds the
list of watchers, which a broadcast reads. -/
namespace Fetchit.Relay.Presence
open Lib.Run

/-- A new watcher, before and after it has looked the agent up. -/
inductive Adding where
  | looks (watcher : Nat)
  | echoes (watcher : Nat) (online : Bool)
  deriving DecidableEq

def Adding.watcher : Adding → Nat
  | .looks watcher | .echoes watcher _ => watcher

structure State where
  session : Option Nat
  nextId : Nat
  /-- The broadcasts that the calls in progress have still to make, oldest map change first. -/
  due : List Bool
  watchers : List Nat
  adding : Option Adding
  /-- The updates each watcher was sent, in order. -/
  received : Nat → List Bool

def start : State := ⟨none, 0, [], [], none, fun _ => []⟩

inductive Event where
  | register
  | unregister (id : Nat)
  /-- The call at this place among those in progress makes its broadcast. -/
  | broadcast (index : Nat)
  /-- The session of the watcher may have used up its watches. -/
  | addWatch (watcher : Nat) (full : Bool)
  | look
  | echo
  deriving DecidableEq

def State.tell (state : State) (watchers : List Nat) (online : Bool) : State :=
  { state with received := fun watcher =>
      state.received watcher ++ if watcher ∈ watchers then [online] else [] }

def step (state : State) : Event → State
  | .register =>
    { state with
      session := some (state.nextId + 1)
      nextId := state.nextId + 1
      due := state.due ++ if state.session.isNone then [true] else [] }
  | .unregister id =>
    if state.session = some id then { state with session := none, due := state.due ++ [false] }
    else state
  | .broadcast index =>
    match state.due[index]?, state.adding with
    | some online, none =>
      { state.tell state.watchers online with due := state.due.eraseIdx index }
    | _, _ => state
  | .addWatch watcher full =>
    if full ∨ watcher ∈ state.watchers ∨ state.adding ≠ none then state
    else { state with watchers := watcher :: state.watchers, adding := some (.looks watcher) }
  | .look =>
    match state.adding with
    | some (.looks watcher) => { state with adding := some (.echoes watcher state.session.isSome) }
    | _ => state
  | .echo =>
    match state.adding with
    | some (.echoes watcher online) => { state.tell [watcher] online with adding := none }
    | _ => state

/-- The broadcasts are made in the order of the changes that they tell of. -/
def InOrder (_ : State) : Event → Prop
  | .broadcast index => index = 0
  | _ => True

instance (state : State) : ∀ event, Decidable (InOrder state event)
  | .broadcast index => inferInstanceAs (Decidable (index = 0))
  | .register | .unregister _ | .addWatch .. | .look | .echo => isTrue trivial

/-- The newest broadcast that is due tells the present state; when none is due, so did the last
update of every watcher, and so will the first one of a watcher that is being added. -/
structure Current (state : State) : Prop where
  due : ∀ online ∈ state.due.getLast?, online = state.session.isSome
  told : state.due = [] → ∀ watcher ∈ state.watchers,
    (∀ adding ∈ state.adding, adding.watcher ≠ watcher) →
      (state.received watcher).getLast? = some state.session.isSome
  echo : state.due = [] → ∀ watcher online, state.adding = some (.echoes watcher online) →
    online = state.session.isSome

theorem Current.changed (state : State) (session : Option Nat) (nextId : Nat) :
    Current { state with session, nextId, due := state.due ++ [session.isSome] } := by
  constructor <;> simp

theorem Current.broadcast
    (current : Current state) (due : state.due = online :: rest) (idle : state.adding = none) :
    Current { state.tell state.watchers online with due := rest } := by
  have newest := current.due
  rw [due] at newest
  refine ⟨?_, ?_, ?_⟩
  · intro later mem
    cases rest with
    | nil => cases mem
    | cons next rest => exact newest later (by simpa using mem)
  · rintro rfl watcher watches _
    have latest : online = state.session.isSome := newest online rfl
    simp only [State.tell] at watches ⊢
    rw [if_pos watches, List.getLast?_concat, latest]
  · intro _ watcher later adding
    cases idle.symm.trans adding

theorem Current.echoed (current : Current state)
    (adding : state.adding = some (.echoes watcher online)) :
    Current { state.tell [watcher] online with adding := none } := by
  refine ⟨current.due, ?_, nofun⟩
  intro none other watches _
  simp only [State.tell, List.mem_singleton] at watches ⊢
  by_cases same : other = watcher
  · rw [if_pos same, List.getLast?_concat, current.echo none watcher online adding]
  · rw [if_neg same, List.append_nil]
    refine current.told none other watches ?_
    intro under mem
    cases adding.symm.trans mem
    exact Ne.symm same

theorem Current.step (current : Current state)
    (ordered : InOrder state event) : Current (step state event) := by
  cases event with
  | register =>
    cases online : state.session with
    | none => simpa [Presence.step, online] using Current.changed state (some (state.nextId + 1)) _
    | some id =>
      refine ⟨?_, ?_, ?_⟩
      · simpa [Presence.step, online] using current.due
      · simpa [Presence.step, online] using current.told
      · simpa [Presence.step, online] using current.echo
  | unregister id =>
    simp only [Presence.step]
    split
    · exact Current.changed state none state.nextId
    · exact current
  | broadcast index =>
    cases ordered
    simp only [Presence.step]
    cases due : state.due with
    | nil => exact current
    | cons online rest =>
      cases idle : state.adding with
      | none => simpa using current.broadcast due idle
      | some adding => exact current
  | addWatch watcher full =>
    simp only [Presence.step]
    split
    · exact current
    · next apart =>
      refine ⟨current.due, ?_, nofun⟩
      intro none other watches under
      have older : other ∈ state.watchers :=
        List.mem_of_ne_of_mem (Ne.symm (under _ rfl)) watches
      refine current.told none other older ?_
      intro adding mem
      refine absurd (.inr (.inr ?_)) apart
      rw [mem]
      exact nofun
  | look =>
    simp only [Presence.step]
    split
    · next watcher adding =>
      refine ⟨current.due, ?_, ?_⟩
      · intro none other watches under
        refine current.told none other watches ?_
        intro before mem
        cases adding.symm.trans mem
        exact under (.echoes watcher state.session.isSome) rfl
      · intro _ watcher online adding
        cases adding
        rfl
    · exact current
  | echo =>
    simp only [Presence.step]
    split
    · next adding => exact current.echoed adding
    · exact current

/-- If the broadcasts are made in order, the last update of every watcher is the present state once
no call is in progress. -/
theorem presence_converges (events : List Event) (ordered : Meets step InOrder start events)
    (quiet : (run step start events).due = [] ∧ (run step start events).adding = none)
    (watcher : Nat) (watches : watcher ∈ (run step start events).watchers) :
    ((run step start events).received watcher).getLast? =
      some (run step start events).session.isSome := by
  have current : Current (run step start events) :=
    run_invariant Current (fun _ _ held meets => held.step meets) events start
      ⟨nofun, nofun, nofun⟩ ordered
  exact current.told quiet.1 watcher watches (by simp [quiet.2])

/-! The agent's session ends while a new one begins. -/

def watched : List Event := [.addWatch 0 false, .look, .echo, .register, .broadcast 0]

theorem watched_converges :
    ((run step start (watched ++ [.unregister 1, .register, .broadcast 0, .broadcast 0])).received
      0).getLast? = some true := by
  have ordered : Meets step InOrder start
      (watched ++ [.unregister 1, .register, .broadcast 0, .broadcast 0]) := by decide
  exact presence_converges _ ordered ⟨rfl, rfl⟩ 0 (by decide)

/-- The end of the session is told after the beginning of the next one. In the second run two
sessions begin, and the first tells of it when the second has ended. -/
theorem stale_broadcast_last :
    (let state := run step start (watched ++ [.unregister 1, .register, .broadcast 1, .broadcast 0])
     state.due = [] ∧ state.adding = none ∧ state.session = some 2 ∧
      (state.received 0).getLast? = some false) ∧
    let state := run step start
      [.addWatch 0 false, .look, .echo, .register, .register, .unregister 2, .broadcast 1,
        .broadcast 0]
    state.due = [] ∧ state.adding = none ∧ state.session = none ∧
      (state.received 0).getLast? = some true := by
  decide

end Fetchit.Relay.Presence
