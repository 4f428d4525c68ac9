import Fetchit.Lib.Past
import Fetchit.Relay.Connections

/-! The relay's custody of what it has acknowledged. A deposit is stored before it is pushed and
pushed before it is acknowledged, deletes are scoped to the agent of the session they come from,
and no id is given twice. -/
namespace Fetchit.Relay.Custody
open Lib Lib.Run Lib.Past Proto.Identity Proto.Envelope TransitStore Server

def ttlMs : TransitStore → Nat
  | .memory buffer => buffer.ttlMs
  | .sqlite db => db.ttlMs

/-- The entry's time has not passed. The table takes the time 0 for expired. -/
def Unexpired (store : TransitStore) (entry : StoredEntry) (now : Nat) : Prop :=
  now - entry.enqueuedAtMs < ttlMs store ∧ (store.durable → 0 < entry.enqueuedAtMs)

/-- The step is neither an acknowledgement of the entry by a session of its recipient, nor a sweep
after its time. -/
def Keeps (recipient : AgentId) (entry : StoredEntry) (server : Server) : Event → Prop
  | .receive connection _ _ (.transitAck ackedIds) =>
    server.agentOf connection = some recipient →
      ¬ Lists server.transit (ackedIds.take maxAckIdsPerFrame) entry.id
  | .sweepExpired env => Unexpired server.transit entry env.now
  | _ => True

section Stores

variable {codec : Postcard} {store : TransitStore} {recipient : AgentId} {entry : StoredEntry}

variable {agent : AgentId}

section
variable (there : entry ∈ store.readAll codec recipient)
include there

theorem sweepExpired_retains (unexpired : Unexpired store entry env.now) :
    entry ∈ (store.sweepExpired env).2.readAll codec recipient := by
  cases store with
  | memory buffer =>
    obtain ⟨row, owned, rfl⟩ := List.mem_map.mp there
    refine List.mem_map.mpr ⟨row, Ledger.mem_owned_retain.mpr ⟨owned, ?_⟩, rfl⟩
    exact decide_eq_true unexpired.1
  | sqlite db =>
    obtain ⟨row, owned, decoded⟩ := List.mem_filterMap.mp there
    refine List.mem_filterMap.mpr ⟨row, Ledger.mem_owned_retain.mpr ⟨owned, ?_⟩, decoded⟩
    obtain ⟨envelope, _, rfl⟩ := Option.map_eq_some_iff.mp decoded
    have young : env.now - row.item.enqueuedAtMs < db.ttlMs := unexpired.1
    have positive : 0 < row.item.enqueuedAtMs := unexpired.2 rfl
    have clamped : sqlParam (env.now - db.ttlMs) ≤ env.now - db.ttlMs := Nat.min_le_left _ _
    apply decide_eq_true
    omega

theorem enqueue_retains :
    entry ∈ (store.enqueue codec env agent envelope).2.readAll codec recipient := by
  rcases enqueue_spec codec store env agent envelope with ⟨error, failed⟩ | ⟨id, after, done, spec⟩
  · rw [failed]
    exact there
  · rw [done]
    exact (spec.entries recipient entry).mpr (.inl there)

end

/-- The store after some operation: what it holds under an id given before, it held before. -/
structure Evolves (codec : Postcard) (store after : TransitStore) : Prop where
  next_le : store.next ≤ after.next
  entries : ∀ agent entry, entry ∈ after.readAll codec agent → entry.id < store.next →
    entry ∈ store.readAll codec agent

theorem Evolves.refl : Evolves codec store store := ⟨Nat.le_refl _, fun _ _ mem _ => mem⟩

theorem Evolves.trans (first : Evolves codec store middle)
    (second : Evolves codec middle after) : Evolves codec store after := by
  refine ⟨Nat.le_trans first.next_le second.next_le, ?_⟩
  intro agent entry mem old
  have between := second.entries agent entry mem (Nat.lt_of_lt_of_le old first.next_le)
  exact first.entries agent entry between old

theorem Evolves.of_shrinks (shrinks : Shrinks codec store after) :
    Evolves codec store after :=
  ⟨Nat.le_of_eq shrinks.next_eq.symm, fun agent entry mem _ => shrinks.entries agent entry mem⟩

theorem evolves_enqueue :
    Evolves codec store (store.enqueue codec env agent envelope).2 := by
  rcases enqueue_spec codec store env agent envelope with ⟨error, failed⟩ | ⟨id, after, done, spec⟩
  · rw [failed]
    exact .refl
  · rw [done]
    refine ⟨by rw [spec.next_eq]; omega, ?_⟩
    intro other entry mem old
    rcases (spec.entries other entry).mp mem with before | ⟨_, rfl⟩
    · exact before
    · exact absurd spec.id_eq (Nat.ne_of_lt old)

end Stores

section Steps

variable {codec : Postcard} {server : Server}

theorem evolves_step (codec : Postcard) (server : Server) (event : Event) :
    Evolves codec server.transit (server.step codec event).transit := by
  have transits := transit_step codec server event
  generalize (server.step codec event).transit = after at transits
  cases transits with
  | same => exact .refl
  | stores => exact evolves_enqueue
  | deletes => exact .of_shrinks (delete_shrinks codec _ _ _ _)
  | sweeps => exact .of_shrinks (sweepExpired_shrinks codec _ _)

theorem evolves_run (codec : Postcard) (events : List Event) :
    ∀ server : Server, Evolves codec server.transit (run (step codec) server events).transit := by
  induction events with
  | nil => exact fun server => .refl
  | cons event events ih => exact fun server => (evolves_step codec server event).trans (ih _)

section
variable (there : entry ∈ server.transit.readAll codec recipient)
include there

theorem retained_step (keeps : Keeps recipient entry server event) :
    entry ∈ (server.step codec event).transit.readAll codec recipient := by
  have transits := transit_step codec server event
  generalize (server.step codec event).transit = after at transits
  cases transits with
  | same => exact there
  | stores => exact enqueue_retains there
  | deletes found =>
    refine delete_retains there fun own => keeps ?_
    unfold agentOf
    rw [found, Option.map_some, own]
  | sweeps => exact sweepExpired_retains there keeps

theorem retained_run (keeps : Meets (step codec) (Keeps recipient entry) server events) :
    entry ∈ (run (step codec) server events).transit.readAll codec recipient :=
  run_invariant (fun server => entry ∈ server.transit.readAll codec recipient)
    (fun _ _ held => retained_step held) events server there keeps

end

end Steps

section Handlers

variable {codec : Postcard} {server : Server} {connection : Nat} {conn : Connection}
  {env : StoreEnv} {event : Event}

inductive Begins : Phase → Prop
  | waiting : Begins .waiting
  | closing : Begins .closing
  | refusing (refusal : Refusal) : Begins (.refusing refusal)
  | storing (send : SendFrame) : Begins (.storing send)

theorem begins_gates :
    Begins (server.gates codec conn now allowed send) := by
  unfold gates
  split
  · exact .refusing _
  · split
    · exact .refusing _
    · split
      · exact .waiting
      · split
        · exact .waiting
        · split
          · exact .refusing _
          · exact .storing send

theorem begins_handleClientFrame :
    Begins (server.handleClientFrame codec connection conn env allowed request).phase := by
  cases request with
  | send send => exact begins_gates
  | ping nonce =>
    unfold handleClientFrame goOn
    dsimp only
    split
    · exact .waiting
    · exact .closing
  | bye => exact .closing
  | transitAck ackedIds => exact .waiting

/-- What one turn of a handler leads to, as far as deposits and stored entries are concerned. -/
inductive Turns (codec : Postcard) (server : Server) (conn : Connection) (env : StoreEnv) :
    Phase → Prop
  | begins {phase : Phase} (begins : Begins phase) : Turns codec server conn env phase
  | reads : Turns codec server conn env .reading
  | replays {stored : List StoredEntry} {deliveredAtMs : Nat}
      (read : ∀ entry ∈ stored, entry ∈ server.transit.readAll codec conn.agentId) :
      Turns codec server conn env (.replaying stored deliveredAtMs)
  | goesOn {entry : StoredEntry} {stored : List StoredEntry} {deliveredAtMs : Nat}
      (phase : conn.phase = .replaying (entry :: stored) deliveredAtMs) :
      Turns codec server conn env (.replaying stored deliveredAtMs)
  | stores {send : SendFrame} {transitSeq : Nat} (phase : conn.phase = .storing send)
      (stored : (server.transit.enqueue codec env send.recipient send.envelope).1 =
        .ok transitSeq) : Turns codec server conn env (.pushing send transitSeq)
  | pushes {send : SendFrame} {transitSeq : Nat} (phase : conn.phase = .pushing send transitSeq) :
      Turns codec server conn env (.acknowledging send transitSeq)
  | closes : Turns codec server conn env .closed

theorem turns_turn (codec : Postcard) (server : Server) (connection : Nat) (conn : Connection)
    (env : StoreEnv) :
    Turns codec server conn env (server.turn codec connection conn env).phase := by
  unfold turn
  split
  next => exact .reads
  next => exact .replays fun entry mem => List.mem_of_mem_take mem
  next => exact .begins .waiting
  next phase =>
    split
    · exact .goesOn phase
    · exact .begins .waiting
  next => exact .begins .waiting
  next => exact .begins .waiting
  next send phase =>
    split
    next => exact .begins (.refusing _)
    next transitSeq transit stored => exact .stores phase (congrArg Prod.fst stored)
  next phase => exact .pushes phase
  next => exact .begins .waiting
  next => exact .closes
  next => exact .closes

/-- A step that changes the phase of a connection is a turn of its handler, or begins something
new. -/
theorem turns_of_moves (moves : Moves codec server connection conn event phase) :
    Begins phase ∨ ∃ env, event = .turn connection env ∧ Turns codec server conn env phase := by
  cases moves with
  | turns => exact .inr ⟨_, rfl, turns_turn ..⟩
  | handles waiting => exact .inl begins_handleClientFrame
  | hangsUp waiting => exact .inl .closing

def InPhase (connection : Nat) (holds : Phase → Prop) (server : Server) : Prop :=
  ∃ conn, server.connections[connection]? = some conn ∧ holds conn.phase

theorem inPhase_step (fresh : ¬ holds .registering)
    (now : InPhase connection holds (server.step codec event)) :
    InPhase connection holds server ∨ ∃ conn phase,
      server.connections[connection]? = some conn ∧ holds phase ∧
        Moves codec server connection conn event phase := by
  obtain ⟨after, there, held⟩ := now
  rcases connection_step there with ⟨agentId, maxEnvelopeBytes, rfl, _⟩ | ⟨conn, found, became⟩
  · exact absurd held fresh
  · rcases became.phase with same | moves
    · exact .inl ⟨conn, found, same ▸ held⟩
    · exact .inr ⟨conn, after.phase, found, held, moves⟩

end Handlers

section Runs

variable {codec : Postcard} {transit : TransitStore} {records : Directory.ServerState}
  {connection : Nat} {send : SendFrame} {transitSeq : Nat}

def StoresAs (codec : Postcard) (connection : Nat) (send : SendFrame) (transitSeq : Nat)
    (server : Server) (event : Event) : Prop :=
  ∃ conn env, event = .turn connection env ∧ server.connections[connection]? = some conn ∧
    conn.phase = .storing send ∧
    (server.transit.enqueue codec env send.recipient send.envelope).1 = .ok transitSeq

theorem stored_after (stores : StoresAs codec connection send transitSeq server event) :
    ∃ env, event = .turn connection env ∧
      ⟨transitSeq, send.envelope, server.transit.stamp env.now⟩ ∈
        (server.step codec event).transit.readAll codec send.recipient := by
  obtain ⟨conn, env, rfl, found, phase, stored⟩ := stores
  refine ⟨env, rfl, ?_⟩
  rcases enqueue_spec codec server.transit env send.recipient send.envelope with
    ⟨error, failed⟩ | ⟨id, after, done, spec⟩
  · rw [failed] at stored
    cases stored
  · rw [done] at stored
    cases stored
    have transits : (server.step codec (.turn connection env)).transit = after := by
      unfold step act
      dsimp only
      rw [found]
      rw [transit_apply]
      simp only [turn, phase, done]
    rw [transits]
    exact (spec.entries send.recipient _).mpr (.inr ⟨rfl, rfl⟩)

theorem not_inPhase_boot :
    ¬ InPhase connection holds (boot transit records) := by
  rintro ⟨conn, found, _⟩
  cases found

variable {events : List Event} {agent : AgentId}

/-- A phase that begins nothing is entered by a turn of the handler. -/
theorem phase_entered (fresh : ¬ holds .registering)
    (unbegun : ∀ phase, Begins phase → ¬ holds phase)
    (entered : ∀ server conn env phase, server.connections[connection]? = some conn → holds phase →
      Turns codec server conn env phase →
        InPhase connection holds server ∨ did server (.turn connection env))
    (now : InPhase connection holds (run (step codec) (boot transit records) events)) :
    Took (step codec) (boot transit records) did events := by
  refine brought_about not_inPhase_boot ?_ events now
  intro server event after
  rcases inPhase_step fresh after with before | ⟨conn, phase, found, held, moves⟩
  · exact .inl before
  · rcases turns_of_moves moves with begins | ⟨env, rfl, turns⟩
    · exact absurd held (unbegun phase begins)
    · exact entered server conn env phase found held turns

theorem pushing_stored (now : InPhase connection (· = .pushing send transitSeq)
      (run (step codec) (boot transit records) events)) :
    Took (step codec) (boot transit records) (StoresAs codec connection send transitSeq)
      events := by
  refine phase_entered (by nofun) (by rintro _ ⟨⟩ ⟨⟩) ?_ now
  rintro server conn env _ found rfl turns
  cases turns with
  | begins begins => cases begins
  | stores phase stored => exact .inr ⟨conn, env, rfl, found, phase, stored⟩

theorem acknowledging_stored (now : InPhase connection (· = .acknowledging send transitSeq)
      (run (step codec) (boot transit records) events)) :
    Took (step codec) (boot transit records) (StoresAs codec connection send transitSeq)
      events := by
  have pushed : Took (step codec) (boot transit records)
      (fun server _ => InPhase connection (· = .pushing send transitSeq) server) events := by
    refine phase_entered (by nofun) (by rintro _ ⟨⟩ ⟨⟩) ?_ now
    rintro server conn env _ found rfl turns
    cases turns with
    | begins begins => cases begins
    | pushes phase => exact .inr ⟨conn, found, phase⟩
  exact pushed.back fun early event pushing => pushing_stored pushing

theorem replaying_stored
    (now : InPhase connection (fun phase => ∃ stored deliveredAtMs,
      phase = .replaying stored deliveredAtMs ∧ entry ∈ stored)
      (run (step codec) (boot transit records) events)) :
    Took (step codec) (boot transit records) (fun server _ => ∃ agent,
      server.agentOf connection = some agent ∧ entry ∈ server.transit.readAll codec agent)
      events := by
  refine phase_entered (by nofun) (by rintro _ ⟨⟩ ⟨_, _, ⟨⟩, _⟩) ?_ now
  rintro server conn env _ found ⟨stored, deliveredAtMs, rfl, mem⟩ turns
  cases turns with
  | begins begins => cases begins
  | replays read =>
    refine .inr ⟨conn.agentId, ?_, read entry mem⟩
    unfold agentOf
    rw [found, Option.map_some]
  | goesOn phase => exact .inl ⟨conn, found, _, _, phase, List.mem_cons_of_mem _ mem⟩

def Acknowledges (connection : Nat) (send : SendFrame) (transitSeq index : Nat)
    (server : Server) : Prop :=
  ∃ conn, server.connections[connection]? = some conn ∧
    conn.phase = .acknowledging send transitSeq ∧ conn.channel.sent.length = index

def HasFrame (connection index : Nat) (frame : ServerFrame) (server : Server) : Prop :=
  ∃ conn, server.connections[connection]? = some conn ∧ conn.channel.sent[index]? = some frame

theorem frame_put
    (now : HasFrame connection index frame (run (step codec) (boot transit records) events)) :
    Took (step codec) (boot transit records) (fun server event =>
      Puts server event connection frame ∧
        ∃ conn, server.connections[connection]? = some conn ∧ conn.channel.sent.length = index)
      events := by
  have unsent : ¬ HasFrame connection index frame (boot transit records) := by
    rintro ⟨conn, found, _⟩
    cases found
  refine brought_about unsent ?_ events now
  rintro server event ⟨after, there, sent⟩
  rcases connection_step there with ⟨agentId, maxEnvelopeBytes, rfl, _⟩ | ⟨conn, found, became⟩
  · cases sent
  · rcases became.sent with same | ⟨added, puts, _, longer⟩
    · exact .inl ⟨conn, found, same ▸ sent⟩
    · rw [longer, List.getElem?_append] at sent
      split at sent
      · exact .inl ⟨conn, found, sent⟩
      · rw [List.getElem?_singleton] at sent
        split at sent
        · cases sent
          exact .inr ⟨puts, conn, found, by omega⟩
        · cases sent

theorem puts_ack (puts : Puts server event connection (.ack key acceptedAtMs)) :
    ∃ env send transitSeq, event = .turn connection env ∧ send.dedupeKey = key ∧
      InPhase connection (· = .acknowledging send transitSeq) server := by
  generalize same : ServerFrame.ack key acceptedAtMs = frame at puts
  cases puts with
  | acknowledges found phase =>
    cases same
    exact ⟨_, _, _, rfl, rfl, _, found, phase⟩
  | @refuses _ _ _ refusal => cases refusal <;> cases same
  | displaces | replays | pushes | pongs | presence => cases same

/-- A delivery is replayed from what was read for the connection's agent, or it is pushed to the
connection that the recipient's agent has registered. -/
theorem puts_deliver (puts : Puts server event connection (.deliver deliver)) :
    (∃ entry : StoredEntry, deliver.transitSeq = entry.id ∧ deliver.envelope = entry.envelope ∧
      InPhase connection (fun phase => ∃ stored deliveredAtMs,
        phase = .replaying stored deliveredAtMs ∧ entry ∈ stored) server) ∨
    ∃ sender send, deliver.envelope = send.envelope ∧
      InPhase sender (· = .pushing send deliver.transitSeq) server ∧
        server.byAgent send.recipient = some connection := by
  generalize same : ServerFrame.deliver deliver = frame at puts
  cases puts with
  | replays found phase =>
    cases same
    exact .inl ⟨_, rfl, rfl, _, found, _, _, phase, List.mem_cons_self⟩
  | pushes found phase routed =>
    cases same
    refine .inr ⟨_, _, rfl, ⟨_, found, phase⟩, ?_⟩
    unfold route at routed
    split at routed
    · cases routed
    · exact routed
  | @refuses _ _ _ refusal => cases refusal <;> cases same
  | displaces | acknowledges | pongs | presence => cases same

theorem agentOf_run (there : server.agentOf connection = some agent) (events : List Event) :
    (run (step codec) server events).agentOf connection = some agent :=
  run_keeps (agentOf · connection = some agent) (fun _ _ there => agentOf_step there) events there

def Routed (server : Server) : Prop :=
  ∀ agent position, server.byAgent agent = some position → server.agentOf position = some agent

theorem routed_run (events : List Event) :
    Routed (run (step codec) (boot transit records) events) := by
  induction events using List.reverseRecOn with
  | nil => nofun
  | append_singleton events event ih =>
    rw [run_append]
    intro agent position there
    apply agentOf_step
    rcases byAgent_step there with old | ⟨conn, found, own⟩
    · exact ih agent position old
    · unfold agentOf
      rw [found, Option.map_some, own]

theorem delivered_stored
    (there : HasFrame connection index (.deliver deliver)
      (run (step codec) (boot transit records) events))
    (own : (run (step codec) (boot transit records) events).agentOf connection = some agent) :
    ∃ stamp, Once (step codec) (boot transit records) (fun server =>
      ⟨deliver.transitSeq, deliver.envelope, stamp⟩ ∈ server.transit.readAll codec agent)
      events := by
  obtain ⟨early, event, late, split, puts, _⟩ := frame_put there
  -- the agent of the connection at any earlier time
  have constant {before after : List Event} {other : AgentId} (cut : events = before ++ after)
      (then_ : (run (step codec) (boot transit records) before).agentOf connection = some other) :
      other = agent := by
    rw [cut, run_append, agentOf_run then_ after] at own
    exact Option.some.inj own
  rcases puts_deliver puts with ⟨entry, id, envelope, replaying⟩ | ⟨sender, send, envelope, pushing,
    routed⟩
  · obtain ⟨before, first, between, earlier, other, then_, read⟩ := replaying_stored replaying
    have cut : events = before ++ (first :: between ++ event :: late) := by
      rw [split, earlier, List.append_assoc]
    obtain rfl := constant cut then_
    refine ⟨entry.enqueuedAtMs, before, _, cut, ?_⟩
    rw [id, envelope]
    exact read
  · obtain ⟨before, first, between, earlier, stores⟩ := pushing_stored pushing
    obtain ⟨env, _, stored⟩ := stored_after stores
    obtain rfl := constant split (routed_run early _ _ routed)
    refine ⟨(run (step codec) (boot transit records) before).transit.stamp env.now,
      before ++ [first], between ++ event :: late, ?_, ?_⟩
    · rw [split, earlier, List.append_assoc, List.append_assoc, List.cons_append,
        List.singleton_append]
    · rw [envelope, run_append]
      exact stored

/-- A session of the sender that the envelope names hands in the deposit. -/
def Deposits (send : SendFrame) (server : Server) (event : Event) : Prop :=
  ∃ connection env allowed, event = .receive connection env allowed (.send send) ∧
    server.agentOf connection = some send.envelope.senderAgentId

theorem storing_deposited (now : InPhase connection (· = .storing send)
      (run (step codec) (boot transit records) events)) :
    Took (step codec) (boot transit records) (Deposits send) events := by
  refine brought_about not_inPhase_boot ?_ events now
  intro server event after
  rcases inPhase_step (by nofun) after with before | ⟨conn, phase, found, storing, moves⟩
  · exact .inl before
  · right
    cases moves with
    | turns =>
      unfold turn at storing
      repeat' split at storing
      all_goals cases storing
    | hangsUp => cases storing
    | @handles env allowed request =>
      -- only a deposit that has passed the gates is stored
      unfold handleClientFrame gates goOn at storing
      repeat' split at storing
      all_goals cases storing
      rename_i own _ _
      refine ⟨connection, env, allowed, rfl, ?_⟩
      rw [agentOf, found, Option.map_some, ← not_ne_iff.mp own]

def Stored (codec : Postcard) (agent : AgentId) (entry : StoredEntry) (server : Server) : Prop :=
  entry ∈ server.transit.readAll codec agent

theorem entry_deposited
    (there : Stored codec agent entry (run (step codec) (boot transit records) events))
    (new : ¬Stored codec agent entry (boot transit records)) :
    ∃ send, send.recipient = agent ∧ send.envelope = entry.envelope ∧
      Took (step codec) (boot transit records) (Deposits send) events := by
  have stored : Took (step codec) (boot transit records) (fun server _ => ∃ connection send,
      InPhase connection (· = .storing send) server ∧ send.recipient = agent ∧
        send.envelope = entry.envelope) events := by
    refine brought_about new ?_ events there
    intro server event after
    unfold Stored at after ⊢
    have transits := transit_step codec server event
    generalize (server.step codec event).transit = store at transits after
    cases transits with
    | same => exact .inl after
    | deletes => exact .inl ((delete_shrinks codec _ _ _ _).entries agent entry after)
    | sweeps => exact .inl ((sweepExpired_shrinks codec _ _).entries agent entry after)
    | @stores connection conn env send found phase =>
      rcases enqueue_spec codec server.transit env send.recipient send.envelope with
        ⟨error, failed⟩ | ⟨id, store, done, spec⟩
      · rw [failed] at after
        exact .inl after
      · rw [done] at after
        rcases (spec.entries agent entry).mp after with before | ⟨own, rfl⟩
        · exact .inl before
        · exact .inr ⟨connection, send, ⟨conn, found, phase⟩, own, rfl⟩
  obtain ⟨early, event, late, split, connection, send, storing, own, same⟩ := stored
  have took : Took (step codec) (boot transit records)
      (fun server _ => InPhase connection (· = .storing send) server) events :=
    ⟨early, event, late, split, storing⟩
  exact ⟨send, own, same, took.back fun _ _ => storing_deposited⟩

/-- Whatever the connections do at the same time, a delivery on an agent's connection carries what
the store held for the agent from the start, or an envelope that a session of the sender it names
has handed in for this agent. -/
theorem delivery_deposited_by_sender (codec : Postcard) (transit : TransitStore)
    (records : Directory.ServerState) (events : List Event) (connection index : Nat)
    (deliver : Deliver) (agent : AgentId)
    (there : HasFrame connection index (.deliver deliver)
      (run (step codec) (boot transit records) events))
    (own : (run (step codec) (boot transit records) events).agentOf connection = some agent) :
    (∃ stamp, ⟨deliver.transitSeq, deliver.envelope, stamp⟩ ∈ transit.readAll codec agent) ∨
      ∃ send, send.recipient = agent ∧ send.envelope = deliver.envelope ∧
        Took (step codec) (boot transit records) (Deposits send) events := by
  obtain ⟨stamp, early, late, split, held⟩ := delivered_stored there own
  by_cases old : ⟨deliver.transitSeq, deliver.envelope, stamp⟩ ∈ transit.readAll codec agent
  · exact .inl ⟨stamp, old⟩
  · right
    obtain ⟨send, toward, same, before, event, between, earlier, deposits⟩ := entry_deposited held old
    refine ⟨send, toward, same, before, event, between ++ late, ?_, deposits⟩
    rw [split, earlier, List.append_assoc, List.cons_append]

theorem once_unique (once : Once (step codec) (boot transit records)
      (fun server => entry ∈ server.transit.readAll codec agent) events)
    (now : other ∈ (run (step codec) (boot transit records) events).transit.readAll codec agent)
    (same : other.id = entry.id) : other = entry := by
  obtain ⟨early, late, split, held⟩ := once
  rw [split, run_append] at now
  have given := readAll_lt held
  have before := (evolves_run codec late _).entries agent other now (same ▸ given)
  exact readAll_unique before held same

/-- From the step that stores it, the deposit is readable under its id and its recipient until a
session of the recipient acknowledges the id or its time passes. -/
def InCustody (codec : Postcard) (start : Server) (connection : Nat) (send : SendFrame)
    (transitSeq : Nat) (events : List Event) : Prop :=
  ∃ early env late, events = early ++ .turn connection env :: late ∧
    let stored := run (step codec) start (early ++ [.turn connection env])
    let entry : StoredEntry := ⟨transitSeq, send.envelope,
      (run (step codec) start early).transit.stamp env.now⟩
    entry ∈ stored.transit.readAll codec send.recipient ∧
      ∀ later, Meets (step codec) (Keeps send.recipient entry) stored later →
        entry ∈ (run (step codec) stored later).transit.readAll codec send.recipient

theorem inCustody_of_stored
    (took : Took (step codec) (boot transit records) (StoresAs codec connection send transitSeq)
      events) : InCustody codec (boot transit records) connection send transitSeq events := by
  obtain ⟨early, event, late, split, stores⟩ := took
  obtain ⟨env, rfl, stored⟩ := stored_after stores
  have there : ⟨transitSeq, send.envelope,
      (run (step codec) (boot transit records) early).transit.stamp env.now⟩ ∈
      (run (step codec) (boot transit records)
        (early ++ [.turn connection env])).transit.readAll codec send.recipient := by
    rw [run_append]
    exact stored
  exact ⟨early, env, late, split, there, fun later keeps => retained_run there keeps⟩

/-- Every acknowledgement on a channel answers a deposit that its connection's handler has stored
before and that has been in custody since; every delivery carries the id under which its envelope
was stored for the agent of the connection, and the id never stands for another envelope; and no
frame of another agent removes an entry. -/
theorem acked_deposit_in_custody (codec : Postcard) (transit : TransitStore)
    (records : Directory.ServerState) (events : List Event) :
    (∀ connection index key acceptedAtMs,
      HasFrame connection index (.ack key acceptedAtMs)
        (run (step codec) (boot transit records) events) →
      ∃ before env after send transitSeq, events = before ++ .turn connection env :: after ∧
        Acknowledges connection send transitSeq index
          (run (step codec) (boot transit records) before) ∧
        send.dedupeKey = key ∧
        InCustody codec (boot transit records) connection send transitSeq before) ∧
    (∀ connection index deliver agent,
      HasFrame connection index (.deliver deliver)
        (run (step codec) (boot transit records) events) →
      (run (step codec) (boot transit records) events).agentOf connection = some agent →
      (∃ stamp, Once (step codec) (boot transit records) (fun server =>
        ⟨deliver.transitSeq, deliver.envelope, stamp⟩ ∈ server.transit.readAll codec agent)
        events) ∧
      ∀ entry ∈ (run (step codec) (boot transit records) events).transit.readAll codec agent,
        entry.id = deliver.transitSeq → entry.envelope = deliver.envelope) ∧
    ∀ (server : Server) connection env allowed frame recipient,
      server.agentOf connection ≠ some recipient →
      ∀ entry ∈ server.transit.readAll codec recipient,
        entry ∈ (server.step codec (.receive connection env allowed frame)).transit.readAll codec
          recipient := by
  refine ⟨?_, ?_, ?_⟩
  · intro connection index key acceptedAtMs acked
    obtain ⟨before, event, after, split, puts, conn, found, position⟩ := frame_put acked
    obtain ⟨env, send, transitSeq, rfl, same, acking, here, phase⟩ := puts_ack puts
    rw [found] at here
    cases here
    exact ⟨before, env, after, send, transitSeq, split, ⟨conn, found, phase, position⟩, same,
      inCustody_of_stored (acknowledging_stored ⟨conn, found, phase⟩)⟩
  · intro connection index deliver agent delivered own
    obtain ⟨stamp, once⟩ := delivered_stored delivered own
    refine ⟨⟨stamp, once⟩, ?_⟩
    intro entry now same
    rw [once_unique once now same]
  · intro server connection env allowed frame recipient other entry there
    refine retained_step there ?_
    cases frame with
    | transitAck ackedIds => exact fun own => absurd own other
    | send | ping | bye => trivial

end Runs

/-! Agent 1 connects and deposits one envelope for the absent agent 2. -/

def letter : TransitEnvelope :=
  ⟨3, .dm, none, none, Vector.replicate 32 1, [], 0, 0, [], [], [], []⟩

def clock (now : Nat) : StoreEnv := ⟨now, none, fun _ => false⟩

def letterRelay : Server := boot (.memory (.new 1000 10 4096)) .empty

def deposit : SendFrame := ⟨Vector.replicate 32 2, letter, Vector.replicate 16 7⟩

def depositing : List Event :=
  [.accept (Vector.replicate 32 1) 4096, .turn 0 (clock 1), .turn 0 (clock 1), .turn 0 (clock 1),
    .receive 0 (clock 2) true (.send deposit), .turn 0 (clock 3), .turn 0 (clock 4),
    .turn 0 (clock 5)]

theorem letter_in_custody :
    ∃ before env after send transitSeq, depositing = before ++ .turn 0 env :: after ∧
      Acknowledges 0 send transitSeq 0 (run (step (.only letter)) letterRelay before) ∧
      send.dedupeKey = Vector.replicate 16 7 ∧
      InCustody (.only letter) letterRelay 0 send transitSeq before := by
  refine (acked_deposit_in_custody (.only letter) (.memory (.new 1000 10 4096)) .empty
    depositing).1 0 0 (Vector.replicate 16 7) 5 ⟨_, rfl, ?_⟩
  decide +kernel

theorem letter_deposited_by_sender :
    ∃ send : SendFrame, send.recipient = Vector.replicate 32 2 ∧ send.envelope = letter ∧
      Took (step (.only letter)) letterRelay (Deposits send) (depositing ++
        [.accept (Vector.replicate 32 2) 9, .turn 1 (clock 6), .turn 1 (clock 6),
          .turn 1 (clock 7)]) := by
  apply (delivery_deposited_by_sender (.only letter) (.memory (.new 1000 10 4096)) .empty _ 1 0
    ⟨letter, 1, 6⟩ _ ⟨_, rfl, _⟩ rfl).resolve_left
  · rintro ⟨stamp, ⟨⟩⟩
  · decide +kernel

end Fetchit.Relay.Custody
