import Fetchit.Relay.Session

/-! An acknowledgement reclaims only entries whose delivery the client received. Ids of the
SQLite store keep naming the same entry for ever; ids of the in-memory buffer do so until the
process restarts. -/
namespace Fetchit.Relay
open Lib.History Lib.Run Proto.Identity Proto.Envelope

def Frame.Delivers (frame : Frame) (era : Nat) (entry : StoredEntry) : Prop :=
  frame.era = era ∧ frame.deliver.transitSeq = entry.id ∧ frame.deliver.envelope = entry.envelope

def DeliveredFirst (note : Note) (earlier : List Note) : Prop :=
  ∀ era entry, note = .reclaimed era entry →
    ∃ frame, .received frame ∈ earlier ∧ frame.Delivers era entry

namespace Session

inductive SendSpec (codec : Postcard) (session : Session) (now : Nat) (recipient : AgentId)
    (envelope : TransitEnvelope) : Session → Prop
  | refused : SendSpec codec session now recipient envelope session
  | stored (id : Nat) (after : TransitStore)
      (enqueued : TransitStore.Enqueued codec session.store after recipient envelope now id) :
      SendSpec codec session now recipient envelope { session with store := after }
  | pushed (id : Nat) (after : TransitStore)
      (enqueued : TransitStore.Enqueued codec session.store after recipient envelope now id) :
      SendSpec codec session now recipient envelope
        { session with
          store := after
          pushed := session.pushed ++ [⟨session.era, envelope, id, now⟩] }

theorem handleSend_spec (codec : Postcard) (agent : AgentId) (session : Session)
    (env : TransitStore.StoreEnv) (gate : SendGate) (accepts : Bool) (recipient : AgentId)
    (envelope : TransitEnvelope) :
    SendSpec codec session env.now recipient envelope
      (session.handleSend codec agent env gate accepts recipient envelope).2 := by
  unfold handleSend
  split
  · exact .refused
  split
  · exact .refused
  split
  · exact .refused
  split
  · exact .refused
  split
  · exact .refused
  rcases TransitStore.enqueue_spec codec session.store env recipient envelope with
    ⟨error, failed⟩ | ⟨id, after, done, enqueued⟩
  · rw [failed]
    exact .refused
  · rw [done]
    dsimp only
    split
    · exact .pushed id after enqueued
    · exact .stored id after enqueued

def frames (session : Session) : List Frame := session.pushed ++ session.received

def pendingAcks (session : Session) : List (List Nat) := session.commands ++ session.acks

/-- An id of the store's present lifetime names the entry it was given to. -/
structure Names (codec : Postcard) (agent : AgentId) (store : TransitStore) (frame : Frame) :
    Prop where
  given : frame.deliver.transitSeq < store.next
  entry : ∀ entry ∈ store.readAll codec agent, entry.id = frame.deliver.transitSeq →
    entry.envelope = frame.deliver.envelope

structure Sound (codec : Postcard) (agent : AgentId) (session : Session) : Prop where
  eras : ∀ frame ∈ session.frames, frame.era ≤ session.era
  names : ∀ frame ∈ session.frames, frame.era = session.era →
    Names codec agent session.store frame
  steady : session.store.durable = true → ∀ frame ∈ session.frames, frame.era = session.era
  noted : ∀ frame ∈ session.received, .received frame ∈ session.history
  acked : ∀ ids ∈ session.pendingAcks, ∀ id ∈ ids,
    ∃ frame ∈ session.received, frame.deliver.transitSeq = id
  ordered : Justified DeliveredFirst session.history

/-- Every id that an in-memory relay is asked to delete was received from this lifetime of its
store. -/
def AcksCurrent (session : Session) : Event → Prop
  | .transitAck _ => session.store.durable = false →
      ∀ ids ∈ session.acks.head?, ∀ id ∈ ids.take maxAckIdsPerFrame,
        ∃ frame ∈ session.received, frame.era = session.era ∧ frame.deliver.transitSeq = id
  | _ => True

theorem start_sound (codec : Postcard) (agent : AgentId) (store : TransitStore) :
    (start store).Sound codec agent where
  eras := by
    intro frame mem
    cases mem
  names := by
    intro frame mem
    cases mem
  steady := by
    intro _ frame mem
    cases mem
  noted := by
    intro frame mem
    cases mem
  acked := by
    intro ids mem
    cases mem
  ordered := justified_nil

variable {store after : TransitStore}

theorem Names.enqueue {now id : Nat} (names : Names codec agent store frame)
    (enqueued : TransitStore.Enqueued codec store after recipient envelope now id) :
    Names codec agent after frame where
  given := by
    have given := names.given
    rw [enqueued.next_eq]
    omega
  entry := by
    intro entry mem same
    rcases (enqueued.entries agent entry).mp mem with old | ⟨_, rfl⟩
    · exact names.entry entry old same
    · have given := names.given
      rw [← same, enqueued.id_eq] at given
      exact absurd given (Nat.lt_irrefl _)

theorem Names.shrink
    (names : Names codec agent store frame) (shrinks : TransitStore.Shrinks codec store after) :
    Names codec agent after frame where
  given := by
    rw [shrinks.next_eq]
    exact names.given
  entry := by
    intro entry mem same
    exact names.entry entry (shrinks.entries agent entry mem) same

theorem names_of_stored (h : entry ∈ store.readAll codec agent) (era now : Nat) :
    Names codec agent store ⟨era, entry.envelope, entry.id, now⟩ where
  given := TransitStore.readAll_lt h
  entry := by
    intro other mem same
    rw [TransitStore.readAll_unique mem h same]

theorem names_of_enqueued {now id : Nat}
    (enqueued : TransitStore.Enqueued codec store after recipient envelope now id) (era : Nat) :
    Names codec agent after ⟨era, envelope, id, now⟩ where
  given := by
    rw [enqueued.next_eq, enqueued.id_eq]
    exact Nat.lt_succ_self _
  entry := by
    intro entry mem same
    rcases (enqueued.entries agent entry).mp mem with old | ⟨_, rfl⟩
    · have given := TransitStore.readAll_lt old
      rw [same, enqueued.id_eq] at given
      exact absurd given (Nat.lt_irrefl _)
    · rfl

namespace Sound

variable {codec : Postcard} {agent : AgentId} {session : Session}
  (sound : session.Sound codec agent)
include sound

theorem withStore {store : TransitStore} (durable : store.durable = session.store.durable)
    (names : ∀ frame, Names codec agent session.store frame → Names codec agent store frame) :
    Sound codec agent { session with store := store } where
  eras := sound.eras
  names := by
    intro frame mem current
    exact names frame (sound.names frame mem current)
  steady := by
    intro kept
    exact sound.steady (durable ▸ kept)
  noted := sound.noted
  acked := sound.acked
  ordered := sound.ordered

theorem push (fresh : List Frame)
    (current : ∀ frame ∈ fresh, frame.era = session.era ∧ Names codec agent session.store frame) :
    Sound codec agent { session with pushed := session.pushed ++ fresh } := by
  have split : ∀ frame, frame ∈ session.pushed ++ fresh ++ session.received →
      frame ∈ session.frames ∨ frame ∈ fresh := by
    intro frame mem
    simp only [frames, List.mem_append] at mem ⊢
    tauto
  refine ⟨?_, ?_, ?_, sound.noted, sound.acked, sound.ordered⟩
  · intro frame mem
    rcases split frame mem with old | new
    · exact sound.eras frame old
    · exact Nat.le_of_eq (current frame new).1
  · intro frame mem here
    rcases split frame mem with old | new
    · exact sound.names frame old here
    · exact (current frame new).2
  · intro durable frame mem
    rcases split frame mem with old | new
    · exact sound.steady durable frame old
    · exact (current frame new).1

theorem handleSend (env : TransitStore.StoreEnv) (gate : SendGate) (accepts : Bool)
    (recipient : AgentId) (envelope : TransitEnvelope) :
    (session.handleSend codec agent env gate accepts recipient envelope).2.Sound codec agent := by
  have spec := handleSend_spec codec agent session env gate accepts recipient envelope
  generalize (session.handleSend codec agent env gate accepts recipient envelope).2 = next at spec ⊢
  cases spec with
  | refused => exact sound
  | stored id after enqueued =>
    exact sound.withStore enqueued.durable_eq fun frame names => names.enqueue enqueued
  | pushed id after enqueued =>
    have stored := sound.withStore enqueued.durable_eq fun frame names => names.enqueue enqueued
    apply stored.push [⟨session.era, envelope, id, env.now⟩]
    intro frame mem
    rw [List.mem_singleton.mp mem]
    exact ⟨rfl, names_of_enqueued enqueued session.era⟩

theorem connect (now room : Nat) : (session.connect codec agent now room).Sound codec agent := by
  let taken := ((session.store.readAll codec agent).take replayBatchMax).take room
  have current : ∀ frame ∈ taken.map fun entry => ⟨session.era, entry.envelope, entry.id, now⟩,
      frame.era = session.era ∧ Names codec agent session.store frame := by
    intro frame mem
    obtain ⟨entry, fits, rfl⟩ := List.mem_map.mp mem
    have stored := List.mem_of_mem_take (List.mem_of_mem_take fits)
    exact ⟨rfl, names_of_stored stored session.era now⟩
  have replayed := sound.push _ current
  exact ⟨replayed.eras, replayed.names, replayed.steady, replayed.noted, replayed.acked,
    replayed.ordered⟩

theorem lose {pushed : List Frame} {commands acks : List (List Nat)}
    (fewer : ∀ frame ∈ pushed, frame ∈ session.pushed)
    (pending : ∀ ids ∈ commands ++ acks, ids ∈ session.pendingAcks) (connected : Bool) :
    Sound codec agent { session with
      pushed := pushed, commands := commands, acks := acks, connected := connected } := by
  have old : ∀ frame, frame ∈ pushed ++ session.received → frame ∈ session.frames := by
    intro frame mem
    rcases List.mem_append.mp mem with inFlight | received
    · exact List.mem_append_left _ (fewer frame inFlight)
    · exact List.mem_append_right _ received
  refine ⟨?_, ?_, ?_, sound.noted, ?_, sound.ordered⟩
  · intro frame mem
    exact sound.eras frame (old frame mem)
  · intro frame mem
    exact sound.names frame (old frame mem)
  · intro durable frame mem
    exact sound.steady durable frame (old frame mem)
  · intro ids mem
    exact sound.acked ids (pending ids mem)

theorem receive (index : Nat) : (session.receive index).Sound codec agent := by
  unfold Session.receive
  split
  · exact sound
  · rename_i frame found
    have inFlight : frame ∈ session.pushed := List.mem_of_getElem? found
    have old : ∀ other, other ∈ session.pushed.eraseIdx index ++ (session.received ++ [frame]) →
        other ∈ session.frames := by
      intro other mem
      simp only [List.mem_append, List.mem_singleton] at mem
      rcases mem with waiting | received | rfl
      · exact List.mem_append_left _ (List.mem_of_mem_eraseIdx waiting)
      · exact List.mem_append_right _ received
      · exact List.mem_append_left _ inFlight
    refine ⟨?_, ?_, ?_, ?_, ?_, ?_⟩
    · intro other mem
      exact sound.eras other (old other mem)
    · intro other mem
      exact sound.names other (old other mem)
    · intro durable other mem
      exact sound.steady durable other (old other mem)
    · intro other mem
      rcases List.mem_append.mp mem with before | now
      · exact List.mem_cons_of_mem _ (sound.noted other before)
      · rw [List.mem_singleton.mp now]
        exact List.mem_cons_self
    · intro ids mem id listed
      obtain ⟨other, received, same⟩ := sound.acked ids mem id listed
      exact ⟨other, List.mem_append_left _ received, same⟩
    · refine justified_cons.mpr ⟨?_, sound.ordered⟩
      intro era entry same
      cases same

theorem ackTransit (indices : List Nat) : (session.ackTransit indices).Sound codec agent := by
  unfold Session.ackTransit
  dsimp only
  split
  · exact sound
  · refine ⟨sound.eras, sound.names, sound.steady, sound.noted, ?_, sound.ordered⟩
    intro ids mem id listed
    simp only [pendingAcks, List.mem_append, List.mem_singleton] at mem
    rcases mem with (waiting | rfl) | sent
    · exact sound.acked ids (List.mem_append_left _ waiting) id listed
    · obtain ⟨index, _, confirmed⟩ := List.mem_filterMap.mp (List.mem_of_mem_filter listed)
      obtain ⟨frame, found, rfl⟩ := Option.map_eq_some_iff.mp confirmed
      exact ⟨frame, List.mem_of_getElem? found, rfl⟩
    · exact sound.acked ids (List.mem_append_right _ sent) id listed

theorem supervise : session.supervise.Sound codec agent := by
  unfold Session.supervise
  split
  · exact sound
  · rename_i ids rest waiting
    apply sound.lose
    · intro frame mem
      exact mem
    · intro other mem
      rw [pendingAcks, waiting]
      split at mem
      all_goals
        simp only [List.mem_append, List.mem_cons] at mem ⊢
        tauto

theorem current (holds : session.AcksCurrent (.transitAck env)) (head : session.acks = ids :: rest)
    {id : Nat} (listed : id ∈ ids.take maxAckIdsPerFrame) :
    ∃ frame ∈ session.received, frame.era = session.era ∧ frame.deliver.transitSeq = id := by
  cases durable : session.store.durable with
  | false => exact holds durable ids (by simp [head]) id listed
  | true =>
    have pending : ids ∈ session.pendingAcks := by simp [pendingAcks, head]
    obtain ⟨frame, received, same⟩ := sound.acked ids pending id (List.mem_of_mem_take listed)
    have known : frame ∈ session.frames := List.mem_append_right _ received
    exact ⟨frame, received, sound.steady durable frame known, same⟩

theorem transitAck (holds : session.AcksCurrent (.transitAck env)) :
    (session.transitAck codec agent env).Sound codec agent := by
  unfold Session.transitAck
  split
  · exact sound
  · rename_i ids rest head
    set listed := ids.take maxAckIdsPerFrame
    have shrinks := TransitStore.delete_shrinks codec session.store env agent listed
    have stored := sound.withStore shrinks.durable_eq fun frame names => names.shrink shrinks
    have received : ∀ id ∈ listed, ∃ frame ∈ session.received,
        frame.era = session.era ∧ frame.deliver.transitSeq = id := by
      intro id mem
      exact sound.current holds head mem
    have given : ∀ id ∈ listed, id < session.store.next := by
      intro id mem
      obtain ⟨frame, arrived, here, rfl⟩ := received id mem
      exact (sound.names frame (List.mem_append_right _ arrived) here).given
    refine ⟨stored.eras, stored.names, stored.steady, ?_, ?_, ?_⟩
    · intro frame mem
      exact List.mem_append_right _ (sound.noted frame mem)
    · intro other mem
      refine sound.acked other ?_
      rw [pendingAcks, head]
      simp only [pendingAcks, List.mem_append] at mem ⊢
      tauto
    · apply justified_append sound.ordered
      intro note mem newer era entry same
      obtain ⟨gone, missing, rfl⟩ := List.mem_map.mp mem
      cases same
      obtain ⟨before, after⟩ := List.mem_filter.mp missing
      have asked : entry.id ∈ listed := by
        by_contra unlisted
        exact (of_decide_eq_true after) (TransitStore.delete_keeps before given unlisted)
      obtain ⟨frame, arrived, here, same⟩ := received entry.id asked
      have names := sound.names frame (List.mem_append_right _ arrived) here
      refine ⟨frame, List.mem_append_right _ (sound.noted frame arrived), here, same, ?_⟩
      exact (names.entry entry before same.symm).symm

theorem restart : session.restart.Sound codec agent := by
  have pending : ∀ ids ∈ session.commands ++ [], ids ∈ session.pendingAcks := by
    intro ids mem
    rw [List.append_nil] at mem
    exact List.mem_append_left _ mem
  have idle := sound.lose (fun frame (mem : frame ∈ session.pushed) => mem) pending false
  unfold Session.restart
  cases hs : session.store with
  | sqlite db =>
    rw [hs] at idle
    exact idle
  | memory buffer =>
    refine ⟨?_, ?_, ?_, idle.noted, idle.acked, idle.ordered⟩
    · intro frame mem
      exact Nat.le_succ_of_le (sound.eras frame mem)
    · intro frame mem here
      have old := sound.eras frame mem
      have here : frame.era = session.era + 1 := here
      omega
    · intro durable
      cases durable

end Sound

theorem step_sound (codec : Postcard) (agent : AgentId) (session : Session) (event : Event)
    (sound : session.Sound codec agent) (current : session.AcksCurrent event) :
    (session.step codec agent event).Sound codec agent := by
  cases event with
  | send env gate accepts recipient envelope =>
    exact sound.handleSend env gate accepts recipient envelope
  | connect now room => exact sound.connect now room
  | disconnect => exact sound.lose (fun _ mem => mem) (fun _ mem => mem) false
  | receive index => exact sound.receive index
  | loseDelivery index =>
    exact sound.lose (fun _ mem => List.mem_of_mem_eraseIdx mem) (fun _ mem => mem) _
  | ackTransit indices => exact sound.ackTransit indices
  | supervise => exact sound.supervise
  | loseAck index =>
    apply sound.lose (fun _ mem => mem)
    intro ids mem
    rcases List.mem_append.mp mem with waiting | sent
    · exact List.mem_append_left _ waiting
    · exact List.mem_append_right _ (List.mem_of_mem_eraseIdx sent)
  | transitAck env => exact sound.transitAck current
  | sweepExpired env =>
    have shrinks := TransitStore.sweepExpired_shrinks codec session.store env
    exact sound.withStore shrinks.durable_eq fun frame names => names.shrink shrinks
  | restart => exact sound.restart

theorem reclaimed_after_received (codec : Postcard) (agent : AgentId) (store : TransitStore)
    (events : List Event) (current : Meets (step codec agent) AcksCurrent (start store) events) :
    ∀ later era entry earlier,
      (run (step codec agent) (start store) events).history =
          later ++ .reclaimed era entry :: earlier →
        ∃ frame, .received frame ∈ earlier ∧ frame.Delivers era entry := by
  have sound := run_invariant (Sound codec agent) (step_sound codec agent) events (start store)
    (start_sound codec agent store) current
  intro later era entry earlier split
  exact sound.ordered later _ earlier split era entry rfl

def noCodec : Postcard where
  encode _ := .error ""
  decode _ := none
  decode_encode := by
    intro envelope bytes encoded
    cases encoded

def reader : AgentId := Vector.replicate 32 1

def writer : AgentId := Vector.replicate 32 2

def letter (text : UInt8) : TransitEnvelope :=
  ⟨3, .dm, none, none, writer, [], 0, 0, [text], [], [], []⟩

def calm : TransitStore.StoreEnv := ⟨0, none, fun _ => false⟩

def deposit (text : UInt8) :
    Event := .send calm ⟨1, 1000, true, writer, false⟩ false reader (letter text)

def buffer : TransitStore := .memory (.new 1000 10 10000)

def promptAck : List Event :=
  [deposit 1, .connect 0 8, .receive 0, .ackTransit [0], .supervise, .transitAck calm]

theorem reclaimed_after_received_prompt :
    (run (step noCodec reader) (start buffer) promptAck).history =
        [.reclaimed 0 ⟨1, letter 1, 0⟩, .received ⟨0, letter 1, 1, 0⟩] ∧
      ∃ frame, Note.received frame ∈ [Note.received ⟨0, letter 1, 1, 0⟩] ∧
        frame.Delivers 0 ⟨1, letter 1, 0⟩ := by
  have history : (run (step noCodec reader) (start buffer) promptAck).history =
      [.reclaimed 0 ⟨1, letter 1, 0⟩, .received ⟨0, letter 1, 1, 0⟩] := rfl
  have current : Meets (step noCodec reader) AcksCurrent (start buffer) promptAck := by
    refine ⟨trivial, trivial, trivial, trivial, trivial, ?_, trivial⟩
    intro _ ids head id listed
    cases head
    rw [List.mem_singleton.mp listed]
    exact ⟨⟨0, letter 1, 1, 0⟩, List.mem_singleton.mpr rfl, rfl, rfl⟩
  exact ⟨history, reclaimed_after_received noCodec reader buffer promptAck current [] 0 _ _ history⟩

/-- The acknowledgement of the first letter waits while the relay restarts and stores a second
letter under the same id. -/
def staleAck : List Event :=
  [deposit 1, .connect 0 8, .receive 0, .ackTransit [0], .restart, deposit 2, .connect 0 8,
    .supervise, .transitAck calm]

theorem stale_ack_reclaims_unreceived :
    (run (step noCodec reader) (start buffer) staleAck).history =
        [.reclaimed 1 ⟨1, letter 2, 0⟩, .received ⟨0, letter 1, 1, 0⟩] ∧
      letter 1 ≠ letter 2 := by
  refine ⟨rfl, ?_⟩
  decide

end Session

end Fetchit.Relay
