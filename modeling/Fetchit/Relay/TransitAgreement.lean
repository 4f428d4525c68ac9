import Mathlib.Algebra.BigOperators.Group.List.Basic
import Mathlib.Algebra.Order.BigOperators.Group.List
import Fetchit.Lib.Lockstep
import Fetchit.Relay.Transit

/-! The in-memory buffer and the SQLite table beside each other. The buffer counts the overhead of
every stored envelope, the table only that of the new one, so near the cap on the bytes they answer
differently. They answer alike as long as so few envelopes are held that the cap stands above all of
them, however each is counted. -/
namespace Fetchit.Relay
open Lib Lib.Run Lib.Lockstep Proto.Identity Proto.Envelope

inductive TransitCall where
  | enqueue (now : Nat) (recipient : AgentId) (envelope : TransitEnvelope)
  | readAll (recipient : AgentId)
  | delete (recipient : AgentId) (ids : List Nat)
  | sweepExpired (now : Nat)

inductive TransitAnswer where
  | enqueued (result : Except ServerError Nat)
  | entries (stored : List StoredEntry)
  | removed (count : Nat)
  deriving DecidableEq

def TransitBuffer.call (buffer : TransitBuffer) : TransitCall → TransitAnswer × TransitBuffer
  | .enqueue now recipient envelope => (buffer.enqueue now recipient envelope).map .enqueued id
  | .readAll recipient => (.entries (buffer.readAll recipient), buffer)
  | .delete recipient ids => (buffer.delete recipient ids).map .removed id
  | .sweepExpired now => (buffer.sweepExpired now).map .removed id

def SqliteTransitStore.call (codec : Postcard) (store : SqliteTransitStore) :
    TransitCall → TransitAnswer × SqliteTransitStore
  | .enqueue now recipient envelope =>
    (store.enqueue codec now none recipient envelope).map .enqueued id
  | .readAll recipient => (.entries (store.readAll codec recipient), store)
  | .delete recipient ids => (store.delete (fun _ => false) recipient ids).map .removed id
  | .sweepExpired now => (store.sweepExpired now).map .removed id

theorem rowIdLimit_pos : 1 ≤ rowIdLimit := Nat.one_le_two_pow

def SqliteTransitStore.new (ttlMs capPerRecipient maxTotalBytes : Nat) : SqliteTransitStore :=
  ⟨.empty 1, ttlMs, capPerRecipient, maxTotalBytes, rowIdLimit_pos⟩

namespace TransitAgreement

/-! The account of the buffer. -/

/-- The account is the size of what is stored, and within the cap. -/
structure Accounted (maxTotalBytes : Nat) (buffer : TransitBuffer) : Prop where
  exact : buffer.totalBytes =
    (buffer.ledger.rows.map fun row => envelopeSize row.item.envelope).sum
  cap : buffer.maxTotalBytes = maxTotalBytes
  within : buffer.totalBytes ≤ maxTotalBytes

theorem Accounted.retain
    (accounted : Accounted maxTotalBytes buffer) (keep : LedgerRow AgentId Entry → Bool) :
    Accounted maxTotalBytes (buffer.retain keep).2 := by
  have split : (((buffer.ledger.rows.filter keep).map fun row =>
      envelopeSize row.item.envelope).sum + buffer.freed keep = buffer.totalBytes) := by
    rw [accounted.exact]
    simpa [TransitBuffer.freed] using List.sum_map_filter_add_sum_map_filter_not
      (fun row => keep row = true) (fun row => envelopeSize row.item.envelope) buffer.ledger.rows
  refine ⟨?_, accounted.cap, (Nat.sub_le ..).trans accounted.within⟩
  exact Nat.sub_eq_of_eq_add split.symm

theorem Accounted.call (accounted : Accounted maxTotalBytes buffer) (request : TransitCall) :
    Accounted maxTotalBytes (next TransitBuffer.call buffer request) := by
  cases request with
  | enqueue now recipient envelope =>
    simp only [next, TransitBuffer.call, TransitBuffer.enqueue]
    split
    · exact accounted
    · rename_i room
      split
      · exact accounted
      · refine ⟨?_, accounted.cap, ?_⟩
        · simp [Ledger.append, Ledger.fresh, accounted.exact]
        · rw [← accounted.cap]
          exact Nat.not_lt.mp room
  | readAll recipient => exact accounted
  | delete | sweepExpired => exact accounted.retain _

theorem buffer_accounted (ttlMs capPerRecipient maxTotalBytes : Nat) (calls : List TransitCall) :
    Accounted maxTotalBytes (run (next TransitBuffer.call)
      (.new ttlMs capPerRecipient maxTotalBytes) calls) := by
  exact run_keeps (Accounted maxTotalBytes) (fun _ request held => held.call request) calls
    ⟨rfl, rfl, Nat.zero_le _⟩

/-! What an enqueue does, by the room that it finds. -/

section

variable {codec : Postcard} {buffer : TransitBuffer} {store : SqliteTransitStore}
  {recipient : AgentId} {envelope : TransitEnvelope} {bytes : Bytes} (now : Nat)

theorem TransitBuffer.enqueue_refused
    (full : buffer.maxTotalBytes < buffer.totalBytes + envelopeSize envelope ∨
      buffer.capPerRecipient ≤ (buffer.ledger.owned recipient).length) :
    buffer.enqueue now recipient envelope = (.error .transitBufferFull, buffer) := by
  unfold TransitBuffer.enqueue
  dsimp only
  split
  · rfl
  · rename_i room
    exact if_pos (full.resolve_left room)

theorem TransitBuffer.enqueue_accepted
    (room : buffer.totalBytes + envelopeSize envelope ≤ buffer.maxTotalBytes)
    (free : (buffer.ledger.owned recipient).length < buffer.capPerRecipient) :
    buffer.enqueue now recipient envelope = (.ok buffer.ledger.next, { buffer with
      ledger := buffer.ledger.append recipient ⟨envelope, now⟩
      totalBytes := buffer.totalBytes + envelopeSize envelope }) := by
  unfold TransitBuffer.enqueue
  rw [if_neg (Nat.not_lt.mpr room), if_neg (Nat.not_le.mpr free)]

theorem SqliteTransitStore.enqueue_refused (encoded : codec.encode envelope = .ok bytes)
    (full : store.capPerRecipient ≤ (store.ledger.owned recipient).length ∨
      store.maxTotalBytes < store.storedBytes + envelopeSize envelope) :
    store.enqueue codec now none recipient envelope = (.error .transitBufferFull, store) := by
  unfold SqliteTransitStore.enqueue
  rw [encoded]
  dsimp only
  split
  · rfl
  · rename_i free
    exact if_pos (full.resolve_left free)

theorem SqliteTransitStore.enqueue_accepted (encoded : codec.encode envelope = .ok bytes)
    (free : (store.ledger.owned recipient).length < store.capPerRecipient)
    (room : store.storedBytes + envelopeSize envelope ≤ store.maxTotalBytes)
    (left : store.ledger.next < rowIdLimit) :
    store.enqueue codec now none recipient envelope = (.ok store.ledger.next, { store with
      ledger := store.ledger.append recipient ⟨sqlParam now, bytes⟩
      limited := left }) := by
  unfold SqliteTransitStore.enqueue
  rw [encoded]
  dsimp only
  rw [if_neg (Nat.not_le.mpr free), if_neg (Nat.not_lt.mpr room), dif_pos left]

end

/-! The two stores side by side. -/

/-- An envelope of at most `largest` bytes by either account. -/
def Modest (largest : Nat) (envelope : TransitEnvelope) (bytes : Bytes) : Prop :=
  envelopeSize envelope ≤ largest ∧ bytes.length + envelopeFixedOverhead ≤ largest

/-- A row of the buffer and one of the table for the same envelope. -/
structure Same (codec : Postcard) (largest : Nat) (row : LedgerRow AgentId Entry)
    (other : LedgerRow AgentId TransitRow) : Prop where
  owner : other.owner = row.owner
  id : other.id = row.id
  stamp : other.item.enqueuedAtMs = row.item.enqueuedAtMs
  envelope : codec.decode other.item.envelope = some row.item.envelope
  modest : Modest largest row.item.envelope other.item.envelope
  small : row.id + 1 < rowIdLimit
  clock : 0 < row.item.enqueuedAtMs ∧ row.item.enqueuedAtMs < rowIdLimit

structure Agree (codec : Postcard) (largest : Nat) (buffer : TransitBuffer)
    (store : SqliteTransitStore) : Prop where
  ttl : store.ttlMs = buffer.ttlMs
  lasting : 0 < buffer.ttlMs
  cap : store.capPerRecipient = buffer.capPerRecipient
  bytes : store.maxTotalBytes = buffer.maxTotalBytes
  next : store.ledger.next = buffer.ledger.next
  rows : List.Forall₂ (Same codec largest) buffer.ledger.rows store.ledger.rows
  within : store.totalBytes ≤ store.maxTotalBytes

/-- A call with which the cap on the bytes stays out of the way. An envelope for a recipient who is
not at the cap on the count is larger than the cap on the bytes by itself, or is of at most
`largest` bytes and the cap has room for that many bytes per envelope held and for one more. It
encodes, its time is one that a row can record, and an id is left. -/
def Ample (codec : Postcard) (largest : Nat) (pair : TransitBuffer × SqliteTransitStore) :
    TransitCall → Prop
  | .enqueue now recipient envelope =>
    (0 < now ∧ now < rowIdLimit) ∧ pair.2.ledger.next + 1 < rowIdLimit ∧
      ∃ bytes, codec.encode envelope = .ok bytes ∧
        ((pair.1.ledger.owned recipient).length < pair.1.capPerRecipient →
          pair.1.maxTotalBytes < envelopeSize envelope ∨
            Modest largest envelope bytes ∧
              (pair.1.ledger.rows.length + 1) * largest ≤ pair.1.maxTotalBytes)
  | _ => True

/-- Both accounts of the rows stay within `largest` bytes for each of them. -/
theorem accounts_le {rows : List (LedgerRow AgentId Entry)}
    {others : List (LedgerRow AgentId TransitRow)}
    (same : List.Forall₂ (Same codec largest) rows others) :
    (rows.map fun row => envelopeSize row.item.envelope).sum ≤ rows.length * largest ∧
      (others.map fun row => row.item.envelope.length).sum +
        others.length * envelopeFixedOverhead ≤ rows.length * largest := by
  induction same with
  | nil => exact ⟨Nat.zero_le _, Nat.zero_le _⟩
  | cons same _ ih =>
    obtain ⟨size, blob⟩ := same.modest
    simp only [List.map_cons, List.sum_cons, List.length_cons, Nat.succ_mul]
    omega

section

variable {codec : Postcard} {buffer : TransitBuffer} {store : SqliteTransitStore}
  {envelope : TransitEnvelope} {bytes : Bytes} (agree : Agree codec largest buffer store)
include agree

theorem Agree.owned (recipient : AgentId) :
    List.Forall₂ (Same codec largest) (buffer.ledger.owned recipient)
      (store.ledger.owned recipient) := by
  refine forall₂_filter ?_ agree.rows
  intro row other same
  rw [same.owner]

theorem Agree.readAll (recipient : AgentId) :
    buffer.readAll recipient = store.readAll codec recipient := by
  unfold TransitBuffer.readAll SqliteTransitStore.readAll
  have owned := agree.owned recipient
  generalize buffer.ledger.owned recipient = rows at owned
  generalize store.ledger.owned recipient = others at owned
  induction owned with
  | nil => rfl
  | @cons row other rows others same _ ih =>
    rw [List.map_cons, List.filterMap_cons, ih, same.envelope, same.id, same.stamp]
    rfl

theorem Agree.retain (alike : ∀ row other, Same codec largest row other → keep row = keep' other) :
    (buffer.retain keep).1 = (store.retain keep').1 ∧
      Agree codec largest (buffer.retain keep).2 (store.retain keep').2 := by
  have kept : List.Forall₂ (Same codec largest) (buffer.ledger.rows.filter keep)
      (store.ledger.rows.filter keep') := forall₂_filter alike agree.rows
  constructor
  · simp only [TransitBuffer.retain, SqliteTransitStore.retain, Ledger.retain]
    rw [agree.rows.length_eq, kept.length_eq]
  · refine ⟨agree.ttl, agree.lasting, agree.cap, agree.bytes, agree.next, kept, ?_⟩
    have fewer : store.ledger.rows.filter keep' |>.Sublist store.ledger.rows :=
      List.filter_sublist
    have bytes := (fewer.map fun row => row.item.envelope.length).sum_le_sum
      fun _ _ => Nat.zero_le _
    have within := agree.within
    have overhead := Nat.mul_le_mul_right envelopeFixedOverhead fewer.length_le
    simp only [SqliteTransitStore.totalBytes, SqliteTransitStore.storedBytes,
      SqliteTransitStore.len, SqliteTransitStore.retain, Ledger.retain] at within ⊢
    omega

theorem Agree.delete (recipient : AgentId) (ids : List Nat) :
    (buffer.delete recipient ids).1 = (store.delete (fun _ => false) recipient ids).1 ∧
      Agree codec largest (buffer.delete recipient ids).2
        (store.delete (fun _ => false) recipient ids).2 := by
  refine agree.retain ?_
  intro row other same
  have found : ids.contains row.id =
      ids.any fun id => SqliteTransitStore.rowId id == other.id && !false := by
    rw [same.id, Bool.eq_iff_iff, List.contains_iff_mem, List.any_eq_true]
    have small := same.small
    constructor
    · intro mem
      refine ⟨row.id, mem, ?_⟩
      simp [SqliteTransitStore.rowId, show row.id < rowIdLimit by omega]
    · rintro ⟨id, mem, equal⟩
      simp only [Bool.not_false, Bool.and_true, beq_iff_eq] at equal
      unfold SqliteTransitStore.rowId at equal
      split at equal
      · exact equal ▸ mem
      · omega
  rw [same.owner, found]

theorem Agree.sweepExpired (now : Nat) :
    (buffer.sweepExpired now).1 = (store.sweepExpired now).1 ∧
      Agree codec largest (buffer.sweepExpired now).2 (store.sweepExpired now).2 := by
  refine agree.retain ?_
  intro row other same
  have clock := same.clock
  have lasting := agree.lasting
  rw [same.stamp, agree.ttl, decide_eq_decide]
  unfold sqlParam
  omega

/-- With room for one more envelope of `largest` bytes, both stores have it by their own accounts,
and the table has it by its own `total_bytes` as well. -/
theorem Agree.room (accounted : Accounted maxTotalBytes buffer)
    (modest : Modest largest envelope bytes)
    (ample : (buffer.ledger.rows.length + 1) * largest ≤ buffer.maxTotalBytes) :
    buffer.totalBytes + envelopeSize envelope ≤ buffer.maxTotalBytes ∧
      store.storedBytes + envelopeSize envelope ≤ store.maxTotalBytes ∧
      store.totalBytes + envelopeFixedOverhead + bytes.length ≤ store.maxTotalBytes := by
  obtain ⟨size, blob⟩ := modest
  obtain ⟨sizes, blobs⟩ := accounts_le agree.rows
  have exact := accounted.exact
  rw [Nat.succ_mul] at ample
  simp only [SqliteTransitStore.totalBytes, SqliteTransitStore.storedBytes, SqliteTransitStore.len,
    agree.bytes]
  omega

theorem Agree.accept (clock : 0 < now ∧ now < rowIdLimit)
    (left : store.ledger.next + 1 < rowIdLimit) (encoded : codec.encode envelope = .ok bytes)
    (modest : Modest largest envelope bytes)
    (free : (buffer.ledger.owned recipient).length < buffer.capPerRecipient)
    (accounted : Accounted maxTotalBytes buffer)
    (ample : (buffer.ledger.rows.length + 1) * largest ≤ buffer.maxTotalBytes) :
    (buffer.enqueue now recipient envelope).1 =
        (store.enqueue codec now none recipient envelope).1 ∧
      Agree codec largest (buffer.enqueue now recipient envelope).2
        (store.enqueue codec now none recipient envelope).2 := by
  obtain ⟨room, room', within⟩ := agree.room accounted modest ample
  have free' : (store.ledger.owned recipient).length < store.capPerRecipient := by
    rw [agree.cap, ← (agree.owned recipient).length_eq]
    exact free
  rw [TransitBuffer.enqueue_accepted now room free,
    SqliteTransitStore.enqueue_accepted now encoded free' room' (Nat.lt_of_succ_lt left)]
  refine ⟨congrArg Except.ok agree.next.symm, agree.ttl, agree.lasting, agree.cap, agree.bytes,
    congrArg (· + 1) agree.next, ?_, ?_⟩
  · refine List.rel_append agree.rows (.cons ?_ .nil)
    have small : buffer.ledger.next + 1 < rowIdLimit := agree.next ▸ left
    have recorded : sqlParam now = now := Nat.min_eq_left (Nat.le_pred_of_lt clock.2)
    exact ⟨rfl, agree.next, recorded, codec.decode_encode _ _ encoded, modest, small, clock⟩
  · simp only [SqliteTransitStore.totalBytes, SqliteTransitStore.storedBytes,
      SqliteTransitStore.len, Ledger.append, Ledger.fresh, List.map_append, List.sum_append,
      List.length_append, List.map_cons, List.map_nil, List.sum_cons, List.sum_nil,
      List.length_singleton, Nat.succ_mul] at within ⊢
    omega

theorem Agree.enqueue (accounted : Accounted maxTotalBytes buffer)
    (ample : Ample codec largest (buffer, store) (.enqueue now recipient envelope)) :
    (buffer.enqueue now recipient envelope).1 =
        (store.enqueue codec now none recipient envelope).1 ∧
      Agree codec largest (buffer.enqueue now recipient envelope).2
        (store.enqueue codec now none recipient envelope).2 := by
  obtain ⟨clock, left, bytes, encoded, sized⟩ := ample
  have refused (full : buffer.maxTotalBytes < envelopeSize envelope ∨
      buffer.capPerRecipient ≤ (buffer.ledger.owned recipient).length) :
      buffer.enqueue now recipient envelope = (.error .transitBufferFull, buffer) ∧
        store.enqueue codec now none recipient envelope = (.error .transitBufferFull, store) := by
    have length := (agree.owned recipient).length_eq
    have cap := agree.cap
    have bytes := agree.bytes
    exact ⟨TransitBuffer.enqueue_refused now (by omega),
      SqliteTransitStore.enqueue_refused now encoded (by omega)⟩
  by_cases full : buffer.capPerRecipient ≤ (buffer.ledger.owned recipient).length
  · rw [(refused (.inr full)).1, (refused (.inr full)).2]
    exact ⟨rfl, agree⟩
  · have free := Nat.lt_of_not_le full
    cases sized free with
    | inl large =>
      rw [(refused (.inl large)).1, (refused (.inl large)).2]
      exact ⟨rfl, agree⟩
    | inr small => exact agree.accept clock left encoded small.1 free accounted small.2

theorem Agree.call (accounted : Accounted maxTotalBytes buffer)
    (ample : Ample codec largest (buffer, store) request) :
    (buffer.call request).1 = (store.call codec request).1 ∧
      Agree codec largest (buffer.call request).2 (store.call codec request).2 := by
  cases request with
  | enqueue now recipient envelope =>
    obtain ⟨answered, agree'⟩ := agree.enqueue accounted ample
    exact ⟨congrArg TransitAnswer.enqueued answered, agree'⟩
  | readAll recipient => exact ⟨congrArg TransitAnswer.entries (agree.readAll recipient), agree⟩
  | delete recipient ids =>
    obtain ⟨counted, agree'⟩ := agree.delete recipient ids
    exact ⟨congrArg TransitAnswer.removed counted, agree'⟩
  | sweepExpired now =>
    obtain ⟨counted, agree'⟩ := agree.sweepExpired now
    exact ⟨congrArg TransitAnswer.removed counted, agree'⟩

end

/-- As long as the cap on the bytes leaves room for every envelope held at the size of the largest,
the two stores give the same answers to every sequence of calls, and neither accounts for more than
the cap. -/
theorem transit_stores_agree (codec : Postcard)
    (ttlMs capPerRecipient maxTotalBytes largest : Nat) (lasting : 0 < ttlMs)
    (calls : List TransitCall)
    (ample : Meets (both TransitBuffer.call (SqliteTransitStore.call codec)) (Ample codec largest)
      (.new ttlMs capPerRecipient maxTotalBytes, .new ttlMs capPerRecipient maxTotalBytes) calls) :
    answers TransitBuffer.call (.new ttlMs capPerRecipient maxTotalBytes) calls =
        answers (SqliteTransitStore.call codec) (.new ttlMs capPerRecipient maxTotalBytes) calls ∧
      (run (next TransitBuffer.call) (.new ttlMs capPerRecipient maxTotalBytes)
        calls).totalBytes ≤ maxTotalBytes ∧
      (run (next (SqliteTransitStore.call codec)) (.new ttlMs capPerRecipient maxTotalBytes)
        calls).totalBytes ≤ maxTotalBytes := by
  -- the account of the buffer goes along, since the room is read off it
  let Held (buffer : TransitBuffer) (store : SqliteTransitStore) : Prop :=
    Accounted maxTotalBytes buffer ∧ Agree codec largest buffer store
  have start : Held (.new ttlMs capPerRecipient maxTotalBytes)
      (.new ttlMs capPerRecipient maxTotalBytes) :=
    ⟨⟨rfl, rfl, Nat.zero_le _⟩, rfl, lasting, rfl, rfl, rfl, .nil, Nat.zero_le _⟩
  have kept (buffer : TransitBuffer) (store : SqliteTransitStore) (request : TransitCall)
      (held : Held buffer store) (ample : Ample codec largest (buffer, store) request) :
      (buffer.call request).1 = (store.call codec request).1 ∧
        Held (buffer.call request).2 (store.call codec request).2 := by
    obtain ⟨answered, agree⟩ := held.2.call held.1 ample
    exact ⟨answered, held.1.call request, agree⟩
  obtain ⟨same, accounted, agree⟩ := lockstep kept calls _ _ start ample
  have within := agree.within
  rw [agree.bytes, accounted.cap] at within
  exact ⟨same, accounted.within, within⟩

/-! Messages to one recipient, whose encoding is shorter than the overhead that is counted. -/

def sampleEnvelope : TransitEnvelope :=
  ⟨3, .dm, none, none, Vector.replicate 32 1, List.replicate 32 0, 1, 0, [], [], [], []⟩

def sampleCodec : Postcard where
  encode envelope :=
    if envelope = sampleEnvelope then .ok (List.replicate 74 0) else .error "not the sample"
  decode _ := some sampleEnvelope
  decode_encode := by
    intro envelope bytes encoded
    split at encoded
    · rename_i same
      rw [same]
    · cases encoded

def sampleDeposit (now : Nat) : TransitCall := .enqueue now (Vector.replicate 32 9) sampleEnvelope

theorem roomy_stores_agree :
    answers TransitBuffer.call (.new 10 2 606)
        [sampleDeposit 1, sampleDeposit 2, sampleDeposit 3, .delete (Vector.replicate 32 9) [1],
          sampleDeposit 4, .sweepExpired 13, .readAll (Vector.replicate 32 9)] =
      answers (SqliteTransitStore.call sampleCodec) (.new 10 2 606)
        [sampleDeposit 1, sampleDeposit 2, sampleDeposit 3, .delete (Vector.replicate 32 9) [1],
          sampleDeposit 4, .sweepExpired 13, .readAll (Vector.replicate 32 9)] := by
  refine (transit_stores_agree sampleCodec 10 2 606 202 (by decide) _ ?_).1
  have clock (now : Nat) (small : 0 < now ∧ now < 5) : 0 < now ∧ now < rowIdLimit :=
    ⟨small.1, Nat.lt_trans small.2 (by decide +kernel)⟩
  have modest : Modest 202 sampleEnvelope (List.replicate 74 0) :=
    ⟨by decide +kernel, by decide +kernel⟩
  refine ⟨⟨clock 1 (by decide), by decide +kernel, _, rfl, fun _ => .inr ⟨modest, ?_⟩⟩,
    ⟨clock 2 (by decide), by decide +kernel, _, rfl, fun _ => .inr ⟨modest, ?_⟩⟩,
    ⟨clock 3 (by decide), by decide +kernel, _, rfl, fun free => ?_⟩, trivial,
    ⟨clock 4 (by decide), by decide +kernel, _, rfl, fun _ => .inr ⟨modest, ?_⟩⟩,
    trivial, trivial, trivial⟩
  · decide +kernel
  · decide +kernel
  · exact absurd free (by decide +kernel)
  · decide +kernel

/-- The table accepts a third envelope for which the buffer has no room, and then accounts for
twice the cap. -/
theorem table_exceeds_cap :
    answers TransitBuffer.call (.new 10 5 300)
        [sampleDeposit 1, sampleDeposit 2, sampleDeposit 3] =
      [.enqueued (.ok 1), .enqueued (.ok 2), .enqueued (.error .transitBufferFull)] ∧
    answers (SqliteTransitStore.call sampleCodec) (.new 10 5 300)
        [sampleDeposit 1, sampleDeposit 2, sampleDeposit 3] =
      [.enqueued (.ok 1), .enqueued (.ok 2), .enqueued (.ok 3)] ∧
    (run (next (SqliteTransitStore.call sampleCodec)) (.new 10 5 300)
      [sampleDeposit 1, sampleDeposit 2, sampleDeposit 3]).totalBytes = 606 := by
  decide +kernel

end TransitAgreement

end Fetchit.Relay
