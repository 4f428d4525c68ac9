import Fetchit.Lib.Table
import Fetchit.Outbox.Bubble

/-! The store of the outbox: the bubbles by id, the file that the whole map is sealed into after
every change, and the claims of the sends in progress. A failed seal is only logged. The bubbles
are visited in the order of the table wherever the source visits a hash map. -/
namespace Fetchit.Outbox
open Lib Chat

abbrev Bubbles := Table OutboxBubble.id

structure OutboxStore where
  inner : Bubbles
  inflight : Map String Nat
  file : Option Bubbles
  persists : Bool

theorem lookup_foldl_erase (query : String) (ids : List String) :
    ∀ map : Map String V,
      (ids.foldl (fun map id => map.erase id) map).lookup query =
        if query ∈ ids then none else map.lookup query := by
  induction ids with
  | nil =>
    simp
  | cons id ids ih =>
    intro map
    rw [List.foldl_cons, ih]
    by_cases same : query = id
    · subst same
      simp
    · simp [same]

namespace OutboxStore

def load (file : Option Bubbles) : OutboxStore where
  inner := (file.getD .empty).update OutboxBubble.migrateLegacy OutboxBubble.id_migrateLegacy
  inflight := ∅
  file := file
  persists := true

def flush (fault : Bool) (store : OutboxStore) : OutboxStore :=
  if store.persists && !fault then { store with file := some store.inner } else store

def get (store : OutboxStore) (id : String) : Option OutboxBubble := store.inner.find? id

def upsert (store : OutboxStore) (bubble : OutboxBubble) (fault : Bool) : OutboxStore :=
  { store with inner := store.inner.upsert bubble }.flush fault

def attachmentBubbleCount (store : OutboxStore) : Nat :=
  store.inner.rows.countP (·.attachment.isSome)

def hasAttachmentCapacity (store : OutboxStore) : Bool :=
  decide (store.attachmentBubbleCount < attachmentBubbleCap)

def snapshot (store : OutboxStore) : List OutboxBubble := store.inner.rows

def remove (store : OutboxStore) (id : String) (fault : Bool) : OutboxStore :=
  { store with inner := store.inner.deleteWhere (·.id == id) }.flush fault

def dropBubblesForPeers (store : OutboxStore) (peers : List String) (fault : Bool) :
    List String × OutboxStore :=
  if peers.isEmpty then ([], store)
  else
    let dropped := (store.inner.rows.filter (peers.contains ·.peer)).map (·.id)
    if dropped.isEmpty then ([], store)
    else (dropped,
      { store with inner := store.inner.deleteWhere (peers.contains ·.peer) }.flush fault)

/-- Whether the claim is new. The time of the claim is set either way. -/
def tryMarkInflight (store : OutboxStore) (id : String) (now : Nat) : Bool × OutboxStore :=
  ((store.inflight.lookup id).isNone, { store with inflight := store.inflight.insert id now })

def clearInflight (store : OutboxStore) (id : String) : OutboxStore :=
  { store with inflight := store.inflight.erase id }

def clearAllInflight (store : OutboxStore) : OutboxStore := { store with inflight := ∅ }

def stalled (store : OutboxStore) (now stall : Nat) : List String :=
  (store.inflight.entries.filter fun claim =>
    decide (now - claim.2 ≥ stall) && (store.get claim.1).any (!·.status.isTerminal)).map (·.1)

def clearStalledInflight (store : OutboxStore) (now stall : Nat) :
    List OutboxBubble × OutboxStore :=
  let ids := store.stalled now stall
  (ids.filterMap store.get,
    { store with inflight := ids.foldl (fun map id => map.erase id) store.inflight })

def modify (store : OutboxStore) (id : String) (change : OutboxBubble → OutboxBubble)
    (keeps : ∀ bubble, (change bubble).id = bubble.id) : OutboxStore :=
  { store with
    inner := store.inner.update (fun bubble => if bubble.id = id then change bubble else bubble) (by
      intro bubble
      split
      · exact keeps bubble
      · rfl) }

def receiptTarget (store : OutboxStore) (messageId : String) : Option OutboxBubble :=
  store.inner.rows.find? (·.matchesReceipt messageId)

def markDelivered (store : OutboxStore) (messageId : String) (receivedAtMs : Nat) (fault : Bool) :
    Option OutboxBubble × OutboxStore :=
  match store.receiptTarget messageId with
  | none => (none, store)
  | some bubble =>
    (some (bubble.delivered receivedAtMs),
      (store.modify bubble.id (·.delivered receivedAtMs) fun bubble =>
        bubble.id_delivered receivedAtMs).flush fault)

/-- A bubble that is gone or closed takes no outcome. -/
def recordSendOutcome (store : OutboxStore) (id : String)
    (result : Except SendError (Option String)) (now : Nat) (fault : Bool) :
    Option OutboxBubble × OutboxStore :=
  match store.get id with
  | none => (none, store)
  | some bubble =>
    if bubble.status.isTerminal then (none, store)
    else (some (bubble.attempted result now),
      (store.modify id (·.attempted result now) fun bubble =>
        bubble.id_attempted result now).flush fault)

/-! What an operation leaves behind. -/

section
variable (store : OutboxStore) (id query : String) (fault : Bool)

@[simp] theorem inner_flush : (store.flush fault).inner = store.inner := by
  unfold flush
  split <;> rfl

@[simp] theorem inflight_flush : (store.flush fault).inflight = store.inflight := by
  unfold flush
  split <;> rfl

@[simp] theorem persists_flush : (store.flush fault).persists = store.persists := by
  unfold flush
  split <;> rfl

@[simp] theorem get_flush : (store.flush fault).get query = store.get query := by
  unfold get
  rw [inner_flush]

variable {bubble : OutboxBubble}

theorem get_of_mem {store : OutboxStore} (mem : bubble ∈ store.snapshot) :
    store.get bubble.id = some bubble :=
  Table.find?_eq_some.mpr ⟨mem, rfl⟩

@[simp] theorem get_upsert (bubble : OutboxBubble) :
    (store.upsert bubble fault).get query =
      if bubble.id = query then some bubble else store.get query := by
  unfold upsert
  rw [get_flush]
  exact Table.find?_upsert

@[simp] theorem get_modify (change : OutboxBubble → OutboxBubble)
    (keeps : ∀ bubble, (change bubble).id = bubble.id) :
    (store.modify id change keeps).get query =
      if id = query then (store.get query).map change else store.get query := by
  unfold modify get
  rw [Table.find?_update]
  cases found : store.inner.find? query with
  | none => simp
  | some bubble =>
    have keyed : bubble.id = query := (Table.find?_eq_some.mp found).2
    rw [Option.map_some, keyed, Option.map_some]
    by_cases same : query = id
    · rw [if_pos same, if_pos same.symm]
    · rw [if_neg same, if_neg (Ne.symm same)]

@[simp] theorem get_remove :
    (store.remove id fault).get query = if id = query then none else store.get query := by
  unfold remove
  rw [get_flush]
  unfold get
  rw [Table.find?_deleteWhere]
  cases found : store.inner.find? query with
  | none => simp
  | some bubble =>
    have keyed : bubble.id = query := (Table.find?_eq_some.mp found).2
    simp only [Option.filter_some, keyed]
    by_cases same : query = id
    · simp [same]
    · simp [same, Ne.symm same]

theorem get_dropBubblesForPeers (peers : List String) :
    (store.dropBubblesForPeers peers fault).2.get query =
      (store.get query).filter fun bubble => !peers.contains bubble.peer := by
  have kept (spared : ∀ bubble ∈ store.inner.rows, peers.contains bubble.peer = false) :
      store.get query = (store.get query).filter fun bubble => !peers.contains bubble.peer := by
    cases found : store.get query with
    | none => rfl
    | some bubble =>
      have mem := (Table.find?_eq_some.mp found).1
      rw [Option.filter_some, spared bubble mem]
      rfl
  unfold dropBubblesForPeers
  split
  · rename_i nobody
    apply kept
    intro bubble _
    rw [List.isEmpty_iff.mp nobody]
    rfl
  · dsimp only
    split
    · rename_i empty
      apply kept
      intro bubble mem
      have unmatched :=
        List.filter_eq_nil_iff.mp (List.map_eq_nil_iff.mp (List.isEmpty_iff.mp empty))
      exact Bool.not_eq_true _ ▸ unmatched bubble mem
    · rw [get_flush]
      exact Table.find?_deleteWhere

theorem get_receiptTarget {store : OutboxStore}
    (hit : store.receiptTarget messageId = some bubble) :
    store.get bubble.id = some bubble ∧ bubble.matchesReceipt messageId = true :=
  ⟨get_of_mem (List.mem_of_find?_eq_some hit), List.find?_some hit⟩

theorem get_markDelivered (messageId : String) (receivedAtMs : Nat) :
    (store.markDelivered messageId receivedAtMs fault).2.get query =
      if (store.receiptTarget messageId).any (·.id == query) then
        (store.get query).map (·.delivered receivedAtMs)
      else store.get query := by
  unfold markDelivered
  cases store.receiptTarget messageId with
  | none => rfl
  | some bubble =>
    simp

theorem markDelivered_cases {store : OutboxStore} {id : String} (found : store.get id = some bubble)
    (messageId : String) (receivedAtMs : Nat) (fault : Bool) :
    (store.receiptTarget messageId = some bubble ∧
      (store.markDelivered messageId receivedAtMs fault).2.get id =
        some (bubble.delivered receivedAtMs)) ∨
    (store.receiptTarget messageId ≠ some bubble ∧
      (store.markDelivered messageId receivedAtMs fault).2.get id = some bubble) := by
  rw [get_markDelivered, found]
  by_cases hit : store.receiptTarget messageId = some bubble
  · have own : bubble.id = id := (Table.find?_eq_some.mp found).2
    exact .inl ⟨hit, by simp [hit, own]⟩
  · refine .inr ⟨hit, if_neg ?_⟩
    intro named
    obtain ⟨target, hit', same⟩ := (Option.any_eq_true _ _).mp named
    have there := (get_receiptTarget hit').1
    rw [eq_of_beq same, found] at there
    cases there
    exact hit hit'

theorem get_recordSendOutcome (result : Except SendError (Option String)) (now : Nat) :
    (store.recordSendOutcome id result now fault).2.get query =
      if id = query then (store.get query).map fun bubble =>
        if bubble.status.isTerminal then bubble else bubble.attempted result now
      else store.get query := by
  unfold recordSendOutcome
  cases found : store.get id with
  | none =>
    dsimp only
    split
    · rename_i same
      subst same
      rw [found]
      rfl
    · rfl
  | some bubble =>
    dsimp only
    by_cases closed : bubble.status.isTerminal
    · rw [if_pos closed]
      split
      · rename_i same
        subst same
        rw [found, Option.map_some, if_pos closed]
      · rfl
    · rw [if_neg closed]
      rw [get_flush, get_modify]
      split
      · rename_i same
        subst same
        rw [found, Option.map_some, Option.map_some, if_neg closed]
      · rfl

/-! No operation on the bubbles touches a claim. -/

@[simp] theorem inflight_upsert (bubble : OutboxBubble) :
    (store.upsert bubble fault).inflight = store.inflight :=
  inflight_flush ..

@[simp] theorem inflight_remove : (store.remove id fault).inflight = store.inflight :=
  inflight_flush ..

@[simp] theorem inflight_dropBubblesForPeers (peers : List String) :
    (store.dropBubblesForPeers peers fault).2.inflight = store.inflight := by
  unfold dropBubblesForPeers
  split
  · rfl
  · dsimp only
    split
    · rfl
    · exact inflight_flush ..

@[simp] theorem inflight_markDelivered (messageId : String) (receivedAtMs : Nat) :
    (store.markDelivered messageId receivedAtMs fault).2.inflight = store.inflight := by
  unfold markDelivered
  split
  · rfl
  · exact inflight_flush ..

@[simp] theorem inflight_recordSendOutcome (result : Except SendError (Option String)) (now : Nat) :
    (store.recordSendOutcome id result now fault).2.inflight = store.inflight := by
  unfold recordSendOutcome
  split
  · rfl
  · split
    · rfl
    · exact inflight_flush ..

theorem mem_stalled :
    id ∈ store.stalled now stall ↔
      ∃ claimedAt bubble, store.inflight.lookup id = some claimedAt ∧ stall ≤ now - claimedAt ∧
        store.get id = some bubble ∧ bubble.status.isTerminal = false := by
  unfold stalled
  rw [List.mem_map]
  constructor
  · rintro ⟨⟨_, claimedAt⟩, kept, rfl⟩
    obtain ⟨listed, holds⟩ := List.mem_filter.mp kept
    rw [Bool.and_eq_true, decide_eq_true_eq, Option.any_eq_true] at holds
    obtain ⟨old, bubble, found, live⟩ := holds
    exact ⟨claimedAt, bubble, AList.mem_lookup_iff.mpr listed, old, found, by simpa using live⟩
  · rintro ⟨claimedAt, bubble, claimed, old, found, live⟩
    refine ⟨⟨id, claimedAt⟩, List.mem_filter.mpr ⟨AList.mem_lookup_iff.mp claimed, ?_⟩, rfl⟩
    rw [Bool.and_eq_true, decide_eq_true_eq, Option.any_eq_true]
    exact ⟨old, bubble, found, by simp [live]⟩

theorem lookup_clearStalledInflight (now stall : Nat) :
    (store.clearStalledInflight now stall).2.inflight.lookup query =
      if query ∈ store.stalled now stall then none else store.inflight.lookup query :=
  lookup_foldl_erase query (store.stalled now stall) store.inflight

end

end OutboxStore

end Fetchit.Outbox
