import Fetchit.Lib.Ledger
import Fetchit.Lib.Outcome
import Fetchit.Proto.Envelope

/-! The relay's stores of undelivered envelopes: the in-memory buffer, whose contents and ids
end with the process, and the SQLite table, whose ids are never reused. Both are ledgers of the
entries per recipient. -/
namespace Fetchit.Relay
open Lib Proto.Identity Proto.Envelope

inductive ServerError where
  | transitBufferFull
  | transitStore (reason : String)
  deriving DecidableEq

def envelopeFixedOverhead : Nat := 128

def envelopeSize (envelope : TransitEnvelope) : Nat :=
  envelopeFixedOverhead + envelope.ciphertext.length + envelope.nonce.length +
    envelope.kemCiphertext.length + envelope.senderSignature.length

structure StoredEntry where
  id : Nat
  envelope : TransitEnvelope
  enqueuedAtMs : Nat
  deriving DecidableEq

structure Entry where
  envelope : TransitEnvelope
  enqueuedAtMs : Nat
  deriving DecidableEq

structure TransitBuffer where
  ledger : Ledger AgentId Entry
  ttlMs : Nat
  capPerRecipient : Nat
  maxTotalBytes : Nat
  totalBytes : Nat

namespace TransitBuffer

/-- Ids start at 1; 0 marks a delivery without a stored entry. -/
def new (ttlMs capPerRecipient maxTotalBytes : Nat) : TransitBuffer :=
  ⟨.empty 1, ttlMs, capPerRecipient, maxTotalBytes, 0⟩

def enqueue (buffer : TransitBuffer) (now : Nat) (recipient : AgentId)
    (envelope : TransitEnvelope) : Except ServerError Nat × TransitBuffer :=
  let size := envelopeSize envelope
  if buffer.totalBytes + size > buffer.maxTotalBytes then (.error .transitBufferFull, buffer)
  else if (buffer.ledger.owned recipient).length ≥ buffer.capPerRecipient then
    (.error .transitBufferFull, buffer)
  else
    (.ok buffer.ledger.next, { buffer with
      ledger := buffer.ledger.append recipient ⟨envelope, now⟩
      totalBytes := buffer.totalBytes + size })

def readAll (buffer : TransitBuffer) (recipient : AgentId) : List StoredEntry :=
  (buffer.ledger.owned recipient).map fun row => ⟨row.id, row.item.envelope, row.item.enqueuedAtMs⟩

def freed (buffer : TransitBuffer) (keep : LedgerRow AgentId Entry → Bool) : Nat :=
  ((buffer.ledger.rows.filter fun row => !keep row).map fun row =>
    envelopeSize row.item.envelope).sum

def retain (buffer : TransitBuffer) (keep : LedgerRow AgentId Entry → Bool) :
    Nat × TransitBuffer :=
  (buffer.ledger.rows.length - (buffer.ledger.retain keep).rows.length, { buffer with
    ledger := buffer.ledger.retain keep
    totalBytes := buffer.totalBytes - buffer.freed keep })

def delete (buffer : TransitBuffer) (recipient : AgentId) (ids : List Nat) :
    Nat × TransitBuffer :=
  buffer.retain fun row => !(row.owner == recipient && ids.contains row.id)

def sweepExpired (buffer : TransitBuffer) (now : Nat) : Nat × TransitBuffer :=
  buffer.retain fun row => now - row.item.enqueuedAtMs < buffer.ttlMs

def restart (buffer : TransitBuffer) : TransitBuffer :=
  new buffer.ttlMs buffer.capPerRecipient buffer.maxTotalBytes

end TransitBuffer

/-- The wire encoding; what it encodes it decodes again. -/
structure Postcard where
  encode : TransitEnvelope → Except String Bytes
  decode : Bytes → Option TransitEnvelope
  decode_encode : ∀ envelope bytes, encode envelope = .ok bytes → decode bytes = some envelope

def Postcard.only (envelope : TransitEnvelope) : Postcard where
  encode other := if other = envelope then .ok [] else .error "unknown"
  decode _ := some envelope
  decode_encode := by
    intro other bytes encoded
    split at encoded
    · rename_i same
      rw [same]
    · cases encoded

def rowIdLimit : Nat := 2 ^ 63

def sqlParam (ms : Nat) : Nat := min ms (rowIdLimit - 1)

structure TransitRow where
  enqueuedAtMs : Nat
  envelope : Bytes
  deriving DecidableEq

structure SqliteTransitStore where
  ledger : Ledger AgentId TransitRow
  ttlMs : Nat
  capPerRecipient : Nat
  maxTotalBytes : Nat
  limited : ledger.next ≤ rowIdLimit

namespace SqliteTransitStore

def storedBytes (store : SqliteTransitStore) : Nat :=
  (store.ledger.rows.map fun row => row.item.envelope.length).sum

def enqueue (codec : Postcard) (store : SqliteTransitStore) (now : Nat)
    (fault : Option ServerError) (recipient : AgentId) (envelope : TransitEnvelope) :
    Except ServerError Nat × SqliteTransitStore :=
  match codec.encode envelope with
  | .error reason => (.error (.transitStore reason), store)
  | .ok bytes =>
    match fault with
    | some error => (.error error, store)
    | none =>
      if (store.ledger.owned recipient).length ≥ store.capPerRecipient then
        (.error .transitBufferFull, store)
      else if store.storedBytes + envelopeSize envelope > store.maxTotalBytes then
        (.error .transitBufferFull, store)
      else if h : store.ledger.next < rowIdLimit then
        (.ok store.ledger.next, { store with
          ledger := store.ledger.append recipient ⟨sqlParam now, bytes⟩
          limited := h })
      else (.error (.transitStore "database or disk is full"), store)

def readAll (codec : Postcard) (store : SqliteTransitStore) (recipient : AgentId) :
    List StoredEntry :=
  (store.ledger.owned recipient).filterMap fun row =>
    (codec.decode row.item.envelope).map fun envelope => ⟨row.id, envelope, row.item.enqueuedAtMs⟩

def rowId (id : Nat) : Nat := if id < rowIdLimit then id else rowIdLimit - 1

def retain (store : SqliteTransitStore) (keep : LedgerRow AgentId TransitRow → Bool) :
    Nat × SqliteTransitStore :=
  (store.ledger.rows.length - (store.ledger.retain keep).rows.length,
    { store with ledger := store.ledger.retain keep })

def delete (store : SqliteTransitStore) (stuck : Nat → Bool) (recipient : AgentId)
    (ids : List Nat) : Nat × SqliteTransitStore :=
  store.retain fun row => !(row.owner == recipient &&
    ids.any fun id => rowId id == row.id && !stuck id)

def sweepExpired (store : SqliteTransitStore) (now : Nat) : Nat × SqliteTransitStore :=
  store.retain fun row => sqlParam (now - store.ttlMs) < row.item.enqueuedAtMs

def len (store : SqliteTransitStore) : Nat := store.ledger.rows.length

def totalBytes (store : SqliteTransitStore) : Nat :=
  store.storedBytes + store.len * envelopeFixedOverhead

end SqliteTransitStore

inductive TransitStore where
  | memory (buffer : TransitBuffer)
  | sqlite (store : SqliteTransitStore)

namespace TransitStore

/-- What a store call meets: the clock, and failures of the database. -/
structure StoreEnv where
  now : Nat
  fault : Option ServerError
  stuck : Nat → Bool

def enqueue (codec : Postcard) (store : TransitStore) (env : StoreEnv) (recipient : AgentId)
    (envelope : TransitEnvelope) : Except ServerError Nat × TransitStore :=
  match store with
  | .memory buffer => (buffer.enqueue env.now recipient envelope).map id .memory
  | .sqlite db => (db.enqueue codec env.now env.fault recipient envelope).map id .sqlite

def readAll (codec : Postcard) (store : TransitStore) (recipient : AgentId) :
    List StoredEntry :=
  match store with
  | .memory buffer => buffer.readAll recipient
  | .sqlite db => db.readAll codec recipient

def delete (store : TransitStore) (env : StoreEnv) (recipient : AgentId) (ids : List Nat) :
    Nat × TransitStore :=
  match store with
  | .memory buffer => (buffer.delete recipient ids).map id .memory
  | .sqlite db => (db.delete env.stuck recipient ids).map id .sqlite

def sweepExpired (store : TransitStore) (env : StoreEnv) : Nat × TransitStore :=
  match store with
  | .memory buffer => (buffer.sweepExpired env.now).map id .memory
  | .sqlite db => (db.sweepExpired env.now).map id .sqlite

def restart : TransitStore → TransitStore
  | .memory buffer => .memory buffer.restart
  | .sqlite db => .sqlite db

def durable : TransitStore → Bool
  | .memory _ => false
  | .sqlite _ => true

def next : TransitStore → Nat
  | .memory buffer => buffer.ledger.next
  | .sqlite db => db.ledger.next

section Spec

variable {codec : Postcard} {store : TransitStore} {recipient : AgentId}

variable {entry : StoredEntry}

theorem readAll_lt (h : entry ∈ store.readAll codec recipient) :
    entry.id < store.next := by
  cases store with
  | memory buffer =>
    obtain ⟨row, mem, rfl⟩ := List.mem_map.mp h
    exact Ledger.owned_lt mem
  | sqlite db =>
    obtain ⟨row, mem, decoded⟩ := List.mem_filterMap.mp h
    obtain ⟨envelope, _, rfl⟩ := Option.map_eq_some_iff.mp decoded
    exact Ledger.owned_lt mem

theorem readAll_unique (h : entry ∈ store.readAll codec recipient)
    (h' : other ∈ store.readAll codec recipient) (same : entry.id = other.id) : entry = other := by
  cases store with
  | memory buffer =>
    obtain ⟨row, mem, rfl⟩ := List.mem_map.mp h
    obtain ⟨row', mem', rfl⟩ := List.mem_map.mp h'
    rw [Ledger.eq_of_same_id (Ledger.mem_owned.mp mem).1 (Ledger.mem_owned.mp mem').1 same]
  | sqlite db =>
    obtain ⟨row, mem, decoded⟩ := List.mem_filterMap.mp h
    obtain ⟨row', mem', decoded'⟩ := List.mem_filterMap.mp h'
    obtain ⟨envelope, _, rfl⟩ := Option.map_eq_some_iff.mp decoded
    obtain ⟨envelope', _, rfl⟩ := Option.map_eq_some_iff.mp decoded'
    have rows := Ledger.eq_of_same_id (Ledger.mem_owned.mp mem).1 (Ledger.mem_owned.mp mem').1 same
    subst rows
    rw [decoded] at decoded'
    exact Option.some.inj decoded'

def stamp (store : TransitStore) (now : Nat) : Nat :=
  if store.durable then sqlParam now else now

/-- A successful enqueue adds one entry, under the next id. -/
structure Enqueued (codec : Postcard) (store after : TransitStore) (recipient : AgentId)
    (envelope : TransitEnvelope) (now id : Nat) : Prop where
  id_eq : id = store.next
  next_eq : after.next = store.next + 1
  durable_eq : after.durable = store.durable
  entries : ∀ agent entry, entry ∈ after.readAll codec agent ↔
    entry ∈ store.readAll codec agent ∨
      recipient = agent ∧ entry = ⟨id, envelope, store.stamp now⟩

theorem TransitBuffer.enqueue_spec (buffer : TransitBuffer) (now : Nat) (recipient : AgentId)
    (envelope : TransitEnvelope) :
    (∃ error, buffer.enqueue now recipient envelope = (.error error, buffer)) ∨
      ∃ after, buffer.enqueue now recipient envelope = (.ok buffer.ledger.next, after) ∧
        after.ledger = buffer.ledger.append recipient ⟨envelope, now⟩ := by
  unfold TransitBuffer.enqueue
  dsimp only
  split
  · exact .inl ⟨_, rfl⟩
  · split
    · exact .inl ⟨_, rfl⟩
    · exact .inr ⟨_, rfl, rfl⟩

theorem SqliteTransitStore.enqueue_spec (codec : Postcard) (db : SqliteTransitStore) (now : Nat)
    (fault : Option ServerError) (recipient : AgentId) (envelope : TransitEnvelope) :
    (∃ error, db.enqueue codec now fault recipient envelope = (.error error, db)) ∨
      ∃ after bytes, db.enqueue codec now fault recipient envelope = (.ok db.ledger.next, after) ∧
        codec.encode envelope = .ok bytes ∧
        after.ledger = db.ledger.append recipient ⟨sqlParam now, bytes⟩ := by
  unfold SqliteTransitStore.enqueue
  split
  · exact .inl ⟨_, rfl⟩
  · rename_i bytes encoded
    split
    · exact .inl ⟨_, rfl⟩
    · split
      · exact .inl ⟨_, rfl⟩
      · split
        · exact .inl ⟨_, rfl⟩
        · split
          · exact .inr ⟨_, bytes, rfl, encoded, rfl⟩
          · exact .inl ⟨_, rfl⟩

theorem enqueue_spec (codec : Postcard) (store : TransitStore) (env : StoreEnv)
    (recipient : AgentId) (envelope : TransitEnvelope) :
    (∃ error, store.enqueue codec env recipient envelope = (.error error, store)) ∨
      ∃ id after, store.enqueue codec env recipient envelope = (.ok id, after) ∧
        Enqueued codec store after recipient envelope env.now id := by
  cases store with
  | memory buffer =>
    rcases TransitBuffer.enqueue_spec buffer env.now recipient envelope with
      ⟨error, failed⟩ | ⟨after, done, ledger⟩
    · exact .inl ⟨error, by simp [enqueue, failed]⟩
    · refine .inr ⟨buffer.ledger.next, .memory after, by simp [enqueue, done], rfl, ?_, rfl, ?_⟩
      · simp [next, ledger, Ledger.append]
      · intro agent entry
        simp only [readAll, TransitBuffer.readAll, List.mem_map, ledger,
          Ledger.mem_owned_append]
        constructor
        · rintro ⟨row, old | ⟨same, rfl⟩, rfl⟩
          · exact .inl ⟨row, old, rfl⟩
          · exact .inr ⟨same, rfl⟩
        · rintro (⟨row, old, rfl⟩ | ⟨same, rfl⟩)
          · exact ⟨row, .inl old, rfl⟩
          · exact ⟨_, .inr ⟨same, rfl⟩, rfl⟩
  | sqlite db =>
    rcases SqliteTransitStore.enqueue_spec codec db env.now env.fault recipient envelope with
      ⟨error, failed⟩ | ⟨after, bytes, done, encoded, ledger⟩
    · exact .inl ⟨error, by simp [enqueue, failed]⟩
    · refine .inr ⟨db.ledger.next, .sqlite after, by simp [enqueue, done], rfl, ?_, rfl, ?_⟩
      · simp [next, ledger, Ledger.append]
      · intro agent entry
        have decodes := codec.decode_encode envelope bytes encoded
        simp only [readAll, SqliteTransitStore.readAll, List.mem_filterMap, ledger,
          Ledger.mem_owned_append]
        constructor
        · rintro ⟨row, old | ⟨same, rfl⟩, decoded⟩
          · exact .inl ⟨row, old, decoded⟩
          · refine .inr ⟨same, ?_⟩
            rw [Ledger.fresh, decodes] at decoded
            exact (Option.some.inj decoded).symm
        · rintro (⟨row, old, decoded⟩ | ⟨same, rfl⟩)
          · exact ⟨row, .inl old, decoded⟩
          · refine ⟨_, .inr ⟨same, rfl⟩, ?_⟩
            rw [Ledger.fresh, decodes]
            rfl

structure Shrinks (codec : Postcard) (store after : TransitStore) : Prop where
  next_eq : after.next = store.next
  durable_eq : after.durable = store.durable
  entries : ∀ agent entry, entry ∈ after.readAll codec agent → entry ∈ store.readAll codec agent

section
variable (codec : Postcard)

theorem TransitBuffer.retain_shrinks (buffer : TransitBuffer)
    (keep : LedgerRow AgentId Entry → Bool) :
    Shrinks codec (.memory buffer) (.memory (buffer.retain keep).2) := by
  refine ⟨rfl, rfl, ?_⟩
  intro agent entry mem
  obtain ⟨row, owned, rfl⟩ := List.mem_map.mp mem
  exact List.mem_map.mpr ⟨row, (Ledger.mem_owned_retain.mp owned).1, rfl⟩

theorem SqliteTransitStore.retain_shrinks (db : SqliteTransitStore)
    (keep : LedgerRow AgentId TransitRow → Bool) :
    Shrinks codec (.sqlite db) (.sqlite (db.retain keep).2) := by
  refine ⟨rfl, rfl, ?_⟩
  intro agent entry mem
  obtain ⟨row, owned, decoded⟩ := List.mem_filterMap.mp mem
  exact List.mem_filterMap.mpr ⟨row, (Ledger.mem_owned_retain.mp owned).1, decoded⟩

theorem delete_shrinks (store : TransitStore) (env : StoreEnv)
    (recipient : AgentId) (ids : List Nat) :
    Shrinks codec store (store.delete env recipient ids).2 := by
  cases store with
  | memory buffer => exact TransitBuffer.retain_shrinks codec buffer _
  | sqlite db => exact SqliteTransitStore.retain_shrinks codec db _

theorem sweepExpired_shrinks (store : TransitStore) (env : StoreEnv) :
    Shrinks codec store (store.sweepExpired env).2 := by
  cases store with
  | memory buffer => exact TransitBuffer.retain_shrinks codec buffer _
  | sqlite db => exact SqliteTransitStore.retain_shrinks codec db _

end

def Lists (store : TransitStore) (ids : List Nat) (id : Nat) : Prop :=
  match store with
  | .memory _ => id ∈ ids
  | .sqlite _ => id ∈ ids.map SqliteTransitStore.rowId

theorem delete_retains {agent : AgentId} (there : entry ∈ store.readAll codec recipient)
    (unlisted : agent = recipient → ¬ Lists store ids entry.id) :
    entry ∈ (store.delete env agent ids).2.readAll codec recipient := by
  cases store with
  | memory buffer =>
    obtain ⟨row, owned, rfl⟩ := List.mem_map.mp there
    refine List.mem_map.mpr ⟨row, Ledger.mem_owned_retain.mpr ⟨owned, ?_⟩, rfl⟩
    have owner := (Ledger.mem_owned.mp owned).2
    by_cases own : agent = recipient
    · have absent : row.id ∉ ids := unlisted own
      simp [absent]
    · simp [owner, Ne.symm own]
  | sqlite db =>
    obtain ⟨row, owned, decoded⟩ := List.mem_filterMap.mp there
    refine List.mem_filterMap.mpr ⟨row, Ledger.mem_owned_retain.mpr ⟨owned, ?_⟩, decoded⟩
    obtain ⟨envelope, _, rfl⟩ := Option.map_eq_some_iff.mp decoded
    have owner := (Ledger.mem_owned.mp owned).2
    by_cases own : agent = recipient
    · have absent : ∀ id ∈ ids, SqliteTransitStore.rowId id ≠ row.id := by
        intro id mem same
        exact unlisted own (List.mem_map.mpr ⟨id, mem, same⟩)
      simp only [Bool.not_eq_true', Bool.and_eq_false_iff, List.any_eq_false]
      right
      intro id mem
      simp [absent id mem]
    · simp [owner, Ne.symm own]

theorem delete_keeps (h : entry ∈ store.readAll codec recipient)
    (given : ∀ id ∈ ids, id < store.next) (other : entry.id ∉ ids) :
    entry ∈ (store.delete env recipient ids).2.readAll codec recipient := by
  refine delete_retains h fun _ => ?_
  cases store with
  | memory buffer => exact other
  | sqlite db =>
    intro listed
    obtain ⟨id, mem, same⟩ := List.mem_map.mp listed
    have small : id < rowIdLimit := Nat.lt_of_lt_of_le (given id mem) db.limited
    rw [SqliteTransitStore.rowId, if_pos small] at same
    exact other (same ▸ mem)

end Spec

end TransitStore

end Fetchit.Relay
