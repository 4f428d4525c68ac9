import Fetchit.Relay.Session

/-! The replay of the stored entries on every connect. A replay starts with the oldest entry and
ends with its batch, so an entry is reached once enough of the older ones are gone. -/
namespace Fetchit.Relay.Replay
open Lib Lib.Run Proto.Identity Proto.Envelope Session

/-- A connect, and what happens until the next one. -/
structure Round where
  now : Nat
  room : Nat
  between : List Event

section

variable (codec : Postcard) (agent : AgentId)

def playRound (session : Session) (round : Round) : Session :=
  run (Session.step codec agent) (session.connect codec agent round.now round.room) round.between

def older (entry : StoredEntry) (session : Session) : Nat :=
  (session.store.readAll codec agent).idxOf entry

def Stored (entry : StoredEntry) (session : Session) (_ : Round) : Prop :=
  entry ∈ session.store.readAll codec agent

def MovesUp (entry : StoredEntry) (session : Session) (round : Round) : Prop :=
  replayBatchMax ≤ older codec agent entry session →
    older codec agent entry (playRound codec agent session round) < older codec agent entry session

def Pushes (entry : StoredEntry) (session : Session) (round : Round) : Prop :=
  ⟨session.era, entry.envelope, entry.id, round.now⟩ ∈
    (session.connect codec agent round.now round.room).pushed

end

section

variable {codec : Postcard} {agent : AgentId} {entry : StoredEntry}

theorem pushes_of_older {round : Round}
    (stored : entry ∈ session.store.readAll codec agent) (roomy : replayBatchMax ≤ round.room)
    (near : older codec agent entry session < replayBatchMax) :
    Pushes codec agent entry session round := by
  refine List.mem_append_right _ (List.mem_map.mpr ⟨entry, ?_, rfl⟩)
  rw [List.take_take, Nat.min_eq_right roomy]
  exact (List.mem_take_iff_idxOf_lt stored).mpr near

theorem pushed_within_older :
    ∀ {session : Session},
      Meets (playRound codec agent) (Stored codec agent entry) session rounds →
      Meets (playRound codec agent) (MovesUp codec agent entry) session rounds →
      (∀ round ∈ rounds, replayBatchMax ≤ round.room) →
      older codec agent entry session < rounds.length →
        ∃ early round late, rounds = early ++ round :: late ∧
          early.length ≤ older codec agent entry session ∧
          Pushes codec agent entry (run (playRound codec agent) session early) round := by
  induction rounds with
  | nil =>
    intro session _ _ _ none
    exact absurd none (Nat.not_lt_zero _)
  | cons round rest ih =>
    intro session stored moves roomy enough
    by_cases near : older codec agent entry session < replayBatchMax
    · exact ⟨[], round, rest, rfl, Nat.zero_le _,
        pushes_of_older stored.1 (roomy round List.mem_cons_self) near⟩
    · have moved := moves.1 (Nat.le_of_not_lt near)
      rw [List.length_cons] at enough
      obtain ⟨early, later, late, split, bound, pushes⟩ := ih stored.2 moves.2
        (fun other mem => roomy other (List.mem_cons_of_mem _ mem)) (by omega)
      refine ⟨round :: early, later, late, ?_, ?_, pushes⟩
      · rw [split, List.cons_append]
      · rw [List.length_cons]
        omega

end

/-- If at least one older entry goes away after every connect that does not reach the entry, the
entry is pushed within as many connects as there are stored entries. -/
theorem stored_entry_replayed (codec : Postcard) (agent : AgentId) (session : Session)
    (entry : StoredEntry) (rounds : List Round) (here : entry ∈ session.store.readAll codec agent)
    (stored : Meets (playRound codec agent) (Stored codec agent entry) session rounds)
    (moves : Meets (playRound codec agent) (MovesUp codec agent entry) session rounds)
    (roomy : ∀ round ∈ rounds, replayBatchMax ≤ round.room)
    (enough : (session.store.readAll codec agent).length ≤ rounds.length) :
    ∃ early round late, rounds = early ++ round :: late ∧
      early.length < (session.store.readAll codec agent).length ∧
      Pushes codec agent entry (run (playRound codec agent) session early) round := by
  have position : older codec agent entry session < (session.store.readAll codec agent).length :=
    List.idxOf_lt_length_iff.mpr here
  obtain ⟨early, round, late, split, bound, pushes⟩ :=
    pushed_within_older stored moves roomy (by omega)
  exact ⟨early, round, late, split, by omega, pushes⟩

/-! A backlog in memory. -/

def emptyEnvelope : TransitEnvelope :=
  ⟨3, .dm, none, none, Vector.replicate 32 1, [], 0, 0, [], [], [], []⟩

def noCodec : Postcard where
  encode _ := .error "not used"
  decode _ := none
  decode_encode := by
    intro envelope bytes encoded
    cases encoded

def backlogRow (i : Nat) : LedgerRow AgentId Entry :=
  ⟨Vector.replicate 32 9, i + 1, emptyEnvelope, 0⟩

theorem backlogRow_below (count : Nat) :
    ∀ row ∈ (List.range count).map backlogRow, row.id < count + 1 := by
  intro row mem
  obtain ⟨i, small, rfl⟩ := List.mem_map.mp mem
  exact Nat.succ_lt_succ (List.mem_range.mp small)

theorem backlogRow_distinct (count : Nat) :
    (((List.range count).map backlogRow).map LedgerRow.id).Nodup := by
  rw [List.map_map]
  refine List.Nodup.map ?_ List.nodup_range
  intro i j same
  exact Nat.succ.inj same

def backlogBuffer (count : Nat) : TransitBuffer :=
  ⟨⟨(List.range count).map backlogRow, count + 1, backlogRow_below count,
    backlogRow_distinct count⟩, 1000, count, 128 * count, 128 * count⟩

def backlog (count : Nat) : Session := start (.memory (backlogBuffer count))

theorem readAll_backlog (count : Nat) :
    (backlog count).store.readAll noCodec (Vector.replicate 32 9) =
      (List.range count).map fun i => ⟨i + 1, emptyEnvelope, 0⟩ := by
  change (((List.range count).map backlogRow).filter _).map _ = _
  rw [List.filter_eq_self.mpr, List.map_map]
  · rfl
  · intro row mem
    obtain ⟨i, _, rfl⟩ := List.mem_map.mp mem
    exact decide_eq_true rfl

def idleRound : Round := ⟨1, 512, []⟩

def clearingRound : Round :=
  ⟨0, 512, [.receive 0, .ackTransit [0], .supervise, .transitAck ⟨0, none, fun _ => false⟩]⟩

def Cleared (session : Session) : Prop :=
  session.store.readAll noCodec (Vector.replicate 32 9) =
    (List.range 256).map fun i => ⟨i + 2, emptyEnvelope, 0⟩

theorem first_acknowledged {store : TransitStore}
    (found : store.readAll codec agent = first :: rest) (named : first.id ≠ 0) :
    (playRound codec agent (start store) clearingRound).store =
      (store.delete ⟨0, none, fun _ => false⟩ agent [first.id]).2 := by
  simp [playRound, clearingRound, Session.step, connect, receive, Session.ackTransit,
    Session.supervise, Session.transitAck, start, found, named, replayBatchMax, maxAckIdsPerFrame]

theorem readAll_delete (buffer : TransitBuffer) (agent : AgentId) (ids : List Nat) :
    (buffer.delete agent ids).2.readAll agent =
      (buffer.readAll agent).filter fun entry => !ids.contains entry.id := by
  unfold TransitBuffer.readAll
  rw [List.filter_map]
  congr 1
  change (buffer.ledger.rows.filter _).filter _ = (buffer.ledger.rows.filter _).filter _
  rw [List.filter_filter, List.filter_filter]
  refine List.filter_congr ?_
  intro row mem
  by_cases own : row.owner = agent <;> simp [own]

theorem cleared_clearingRound :
    Cleared (playRound noCodec (Vector.replicate 32 9) (backlog 257) clearingRound) := by
  have found : (TransitStore.memory (backlogBuffer 257)).readAll noCodec (Vector.replicate 32 9) =
      ⟨1, emptyEnvelope, 0⟩ :: (List.range 256).map fun i => ⟨i + 2, emptyEnvelope, 0⟩ := by
    refine (readAll_backlog 257).trans ?_
    rw [List.range_succ_eq_map, List.map_cons, List.map_map]
    rfl
  unfold Cleared backlog
  rw [first_acknowledged found (by decide)]
  refine (readAll_delete (backlogBuffer 257) _ _).trans ?_
  have same : (backlogBuffer 257).readAll (Vector.replicate 32 9) = _ := found
  rw [same, List.filter_cons_of_neg (by decide), List.filter_eq_self]
  intro entry mem
  obtain ⟨i, _, rfl⟩ := List.mem_map.mp mem
  simp

theorem meets_of_cleared
    (holds : ∀ session round, Cleared session → condition session round) (count : Nat) :
    ∀ session, Cleared session → Meets (playRound noCodec (Vector.replicate 32 9)) condition session
      (List.replicate count idleRound) := by
  induction count with
  | zero => exact fun _ _ => trivial
  | succ count ih =>
    intro session cleared
    exact ⟨holds session _ cleared, ih _ cleared⟩

theorem Cleared.last (cleared : Cleared session) :
    ⟨257, emptyEnvelope, 0⟩ ∈ session.store.readAll noCodec (Vector.replicate 32 9) ∧
      older noCodec (Vector.replicate 32 9) ⟨257, emptyEnvelope, 0⟩ session < replayBatchMax := by
  have there : ⟨257, emptyEnvelope, 0⟩ ∈
      session.store.readAll noCodec (Vector.replicate 32 9) := by
    rw [cleared]
    exact List.mem_map.mpr ⟨255, List.mem_range.mpr (by decide), rfl⟩
  have inside := List.idxOf_lt_length_iff.mpr there
  rw [cleared, List.length_map, List.length_range, ← cleared] at inside
  exact ⟨there, inside⟩

/-- The last of 257 entries comes within the batch. -/
theorem last_entry_replayed :
    ∃ early round late,
      clearingRound :: List.replicate 256 idleRound = early ++ round :: late ∧
      early.length < ((backlog 257).store.readAll noCodec (Vector.replicate 32 9)).length ∧
      Pushes noCodec (Vector.replicate 32 9) ⟨257, emptyEnvelope, 0⟩
        (run (playRound noCodec (Vector.replicate 32 9)) (backlog 257) early) round := by
  have here : ⟨257, emptyEnvelope, 0⟩ ∈
      (backlog 257).store.readAll noCodec (Vector.replicate 32 9) := by
    rw [readAll_backlog]
    exact List.mem_map.mpr ⟨256, List.mem_range.mpr (by decide), rfl⟩
  have cleared := cleared_clearingRound
  refine stored_entry_replayed noCodec (Vector.replicate 32 9) (backlog 257)
    ⟨257, emptyEnvelope, 0⟩ (clearingRound :: List.replicate 256 idleRound) here
    ⟨here, meets_of_cleared (fun _ _ cleared => cleared.last.1) 256 _ cleared⟩
    ⟨fun far => Nat.lt_of_lt_of_le cleared.last.2 far, meets_of_cleared ?_ 256 _ cleared⟩ ?_ ?_
  · intro session round cleared far
    exact absurd cleared.last.2 (Nat.not_lt.mpr far)
  · intro round mem
    rcases List.mem_cons.mp mem with rfl | mem
    · decide
    · rw [List.eq_of_mem_replicate mem]
      decide
  · rw [readAll_backlog, List.length_map, List.length_range, List.length_cons,
      List.length_replicate]

theorem last_hidden (connects : List (Nat × Nat)) :
    let session := run (Session.step noCodec (Vector.replicate 32 9)) (backlog 257)
      (connects.map fun connect => .connect connect.1 connect.2)
    ⟨257, emptyEnvelope, 0⟩ ∈ session.store.readAll noCodec (Vector.replicate 32 9) ∧
      ∀ frame ∈ session.pushed, frame.deliver.transitSeq ≠ 257 := by
  suffices kept : ∀ session : Session, session.store = (backlog 257).store →
      (∀ frame ∈ session.pushed, frame.deliver.transitSeq ≠ 257) →
      (run (Session.step noCodec (Vector.replicate 32 9)) session
        (connects.map fun connect => .connect connect.1 connect.2)).store = (backlog 257).store ∧
      ∀ frame ∈ (run (Session.step noCodec (Vector.replicate 32 9)) session
        (connects.map fun connect => .connect connect.1 connect.2)).pushed,
          frame.deliver.transitSeq ≠ 257 by
    obtain ⟨store, pushed⟩ := kept (backlog 257) rfl (fun _ mem => (List.not_mem_nil mem).elim)
    refine ⟨?_, pushed⟩
    rw [store, readAll_backlog]
    exact List.mem_map.mpr ⟨256, List.mem_range.mpr (by decide), rfl⟩
  induction connects with
  | nil => exact fun _ store pushed => ⟨store, pushed⟩
  | cons connect connects ih =>
    intro session store pushed
    refine ih (session.connect noCodec (Vector.replicate 32 9) connect.1 connect.2) store ?_
    intro frame mem
    rcases List.mem_append.mp mem with old | new
    · exact pushed frame old
    · obtain ⟨entry, replayed, rfl⟩ := List.mem_map.mp new
      have batch := List.mem_of_mem_take replayed
      rw [store, readAll_backlog, ← List.map_take, List.take_range] at batch
      obtain ⟨i, small, rfl⟩ := List.mem_map.mp batch
      have bound := List.mem_range.mp small
      simp only [replayBatchMax] at bound
      dsimp only
      omega

/-- If the first 256 of 257 entries are never acknowledged, the last one is not pushed by any
number of connects. -/
theorem unacked_entries_hide_last :
    ((backlog 257).store.readAll noCodec (Vector.replicate 32 9)).length = 257 ∧
    ∀ connects : List (Nat × Nat),
      let session := run (Session.step noCodec (Vector.replicate 32 9)) (backlog 257)
        (connects.map fun connect => .connect connect.1 connect.2)
      ⟨257, emptyEnvelope, 0⟩ ∈ session.store.readAll noCodec (Vector.replicate 32 9) ∧
        ∀ frame ∈ session.pushed, frame.deliver.transitSeq ≠ 257 := by
  refine ⟨?_, last_hidden⟩
  rw [readAll_backlog, List.length_map, List.length_range]

end Fetchit.Relay.Replay
