import Fetchit.Bridge.Inbound

/-! What other senders can do to a message: the table of messages is keyed on the recipient and
the note's id, and the id is chosen by whoever sends the note. -/
namespace Fetchit.Bridge
open Lib Lib.Run Fedi Fedi.Json Fedi.HttpSignature

section
variable (config : InboundConfig) (store : Store)

def offered (delivery : Delivery) : Option InboxMessage :=
  match verifyDelivery config store delivery with
  | .error _ => none
  | .ok verified =>
    if (verified.activity.get "type").bind Value.asStr = some "Create" ∧
        delivery.writeFault = false then
      composeMessage config delivery verified
    else none

def inboxStep (tables : Tables) (delivery : Delivery) : Tables :=
  (postInbox config store tables delivery).2

end

variable {config : InboundConfig} {store : Store}

theorem inboxMessages_handleCreate (delivery : Delivery) (verified : Verified) (tables : Tables) :
    (handleCreate config delivery verified tables).2.inboxMessages =
      match (if delivery.writeFault = false then composeMessage config delivery verified
        else none) with
      | none => tables.inboxMessages
      | some message => (tables.inboxMessages.insertOrIgnore message).2 := by
  unfold handleCreate
  cases composeMessage config delivery verified with
  | none => simp
  | some message => cases delivery.writeFault <;> rfl

theorem inboxMessages_step (tables : Tables) (delivery : Delivery) :
    (inboxStep config store tables delivery).inboxMessages =
      match offered config store delivery with
      | none => tables.inboxMessages
      | some message => (tables.inboxMessages.insertOrIgnore message).2 := by
  unfold inboxStep postInbox offered
  cases verifyDelivery config store delivery with
  | error response => rfl
  | ok verified =>
    dsimp only
    unfold dispatch
    split
    · rename_i create
      simp only [create, true_and]
      exact inboxMessages_handleCreate delivery verified tables
    · rename_i other
      simp [other]
    · rename_i other
      simp [other]
    · rename_i other
      simp [other]
    · rename_i other
      simp [other]
    · rename_i create _ _ _ _
      rw [if_neg (fun h => create h.1)]

theorem holds_step (tables : Tables) (delivery : Delivery) (key : String × String) :
    (inboxStep config store tables delivery).inboxMessages.holds key = true ↔
      tables.inboxMessages.holds key = true ∨
        ∃ message, offered config store delivery = some message ∧ message.key = key := by
  rw [inboxMessages_step]
  cases offered config store delivery with
  | none => simp
  | some message =>
    rw [Table.holds_insertOrIgnore]
    simp

theorem holds_run (deliveries : List Delivery) (key : String × String) :
    ∀ tables : Tables,
      (run (inboxStep config store) tables deliveries).inboxMessages.holds key = true ↔
        tables.inboxMessages.holds key = true ∨ ∃ delivery ∈ deliveries, ∃ message,
          offered config store delivery = some message ∧ message.key = key := by
  induction deliveries with
  | nil =>
    simp
  | cons delivery deliveries ih =>
    intro tables
    rw [run_cons, ih, holds_step, or_assoc, List.exists_mem_cons_iff]

theorem mem_step (h : row ∈ (inboxStep config store tables delivery).inboxMessages.rows) :
    row ∈ tables.inboxMessages.rows ∨ offered config store delivery = some row := by
  rw [inboxMessages_step] at h
  cases offers : offered config store delivery with
  | none =>
    rw [offers] at h
    exact .inl h
  | some message =>
    rw [offers] at h
    rcases Table.mem_insertOrIgnore.mp h with there | ⟨_, rfl⟩
    · exact .inl there
    · exact .inr rfl

theorem mem_run :
    ∀ tables : Tables, row ∈ (run (inboxStep config store) tables deliveries).inboxMessages.rows →
      row ∈ tables.inboxMessages.rows ∨
        ∃ delivery ∈ deliveries, offered config store delivery = some row := by
  induction deliveries with
  | nil =>
    intro tables h
    exact .inl h
  | cons delivery deliveries ih =>
    intro tables h
    rcases ih _ h with there | ⟨later, mem, offers⟩
    · rcases mem_step there with there | offers
      · exact .inl there
      · exact .inr ⟨delivery, List.mem_cons_self, offers⟩
    · exact .inr ⟨later, List.mem_cons_of_mem _ mem, offers⟩

/-- The first message that a sender offers under an id is stored exactly when nobody else offered
one under that id before. -/
theorem stored_iff_id_unclaimed (config : InboundConfig) (store : Store)
    (earlier : List Delivery) (delivery : Delivery) (message : InboxMessage)
    (offers : offered config store delivery = some message)
    (first : ∀ past ∈ earlier, ∀ other, offered config store past = some other →
      other.key = message.key → other.senderActorUrl ≠ message.senderActorUrl) :
    (∃ row ∈ (run (inboxStep config store) .empty (earlier ++ [delivery])).inboxMessages.rows,
        row.key = message.key ∧ row.senderActorUrl = message.senderActorUrl) ↔
      ∀ past ∈ earlier, ∀ other, offered config store past = some other →
        other.key = message.key → other.senderActorUrl = message.senderActorUrl := by
  rw [run_append, run_cons, run_nil, inboxMessages_step, offers]
  dsimp only
  constructor
  · rintro ⟨row, mem, sameKey, sameSender⟩ past there other otherOffers otherKey
    exfalso
    have taken : (run (inboxStep config store) .empty earlier).inboxMessages.holds message.key =
        true := (holds_run earlier _ _).mpr (.inr ⟨past, there, other, otherOffers, otherKey⟩)
    rw [Table.insertOrIgnore_of_holds taken] at mem
    rcases mem_run _ mem with empty | ⟨source, there', sourceOffers⟩
    · cases empty
    · exact first source there' row sourceOffers sameKey sameSender
  · intro alone
    have free : (run (inboxStep config store) .empty earlier).inboxMessages.holds message.key =
        false := by
      rw [← Bool.not_eq_true, holds_run]
      rintro (empty | ⟨past, there, other, otherOffers, otherKey⟩)
      · cases empty
      · exact first past there other otherOffers otherKey
          (alone past there other otherOffers otherKey)
    exact ⟨message, Table.mem_insertOrIgnore.mpr (.inr ⟨free, rfl⟩), rfl, rfl⟩

def inboundActivity (sender noteId : String) : Value :=
  .object [("type", .string "Create"), ("actor", .string sender),
    ("object", .object [("type", .string "Note"), ("id", .string noteId), ("to", .string "u"),
      ("content", .string "hi")])]

def inboundConfig : InboundConfig where
  bridge := ⟨Proto.Identity.idealCrypto [], ⟨fun text => .ok ⟨text, "https", some text, none, "/"⟩, id,
    fun _ => ""⟩, "b", []⟩
  rsa := exampleRsa
  parseJson := fun body =>
    match body with
    | [1] => some (inboundActivity "s" "n")
    | [2] => some (inboundActivity "m" "n")
    | [3] => some (inboundActivity "m" "x")
    | _ => none
  htmlToText := id
  lowercase := id

def inboundStore : Store := ⟨[⟨"a", "h", "u", .null, 0⟩], List.pairwise_singleton _ _⟩

def inboundDelivery (sender : String) (body : UInt8) : Delivery where
  handle := "h"
  headers := [("date", some "Sun, 06 Nov 1994 08:49:37 GMT"), ("host", some "b"),
    ("content-digest", some (computeContentDigest exampleRsa [body])),
    ("signature-input", some ("sig1=();keyid=\"" ++ sender ++ "#k\"")),
    ("signature", some "sig1=:aw==:")]
  body := [body]
  nowMs := 784111777000
  fetchRemoteActor := fun url => .ok ⟨url, url, some "k"⟩
  denylist := none
  lookupFault := none
  writeFault := false
  secondWriteFault := false

theorem unclaimed_id_stored :
    ∃ row ∈ (run (inboxStep inboundConfig inboundStore) .empty
        ([inboundDelivery "m" 3] ++ [inboundDelivery "s" 1])).inboxMessages.rows,
      row.key = ("a", "n") ∧ row.senderActorUrl = "s" := by
  have offers : offered inboundConfig inboundStore (inboundDelivery "s" 1) =
      some ⟨"a", "s", "n", "hi", "", 784111777000⟩ := by
    decide +kernel
  have other : offered inboundConfig inboundStore (inboundDelivery "m" 3) =
      some ⟨"a", "m", "x", "hi", "", 784111777000⟩ := by
    decide +kernel
  have apart : ∀ past ∈ [inboundDelivery "m" 3], ∀ message,
      offered inboundConfig inboundStore past = some message → message.key ≠ ("a", "n") := by
    intro past mem message found
    rw [List.mem_singleton.mp mem, other] at found
    cases found
    decide
  exact (stored_iff_id_unclaimed inboundConfig inboundStore [inboundDelivery "m" 3]
    (inboundDelivery "s" 1) _ offers
    (fun past mem message found same => absurd same (apart past mem message found))).mpr
    (fun past mem message found same => absurd same (apart past mem message found))

/-- Whoever sends a note under another's id first keeps that note out. -/
theorem claimed_id_suppresses :
    offered inboundConfig inboundStore (inboundDelivery "s" 1) =
        some ⟨"a", "s", "n", "hi", "", 784111777000⟩ ∧
      (run (inboxStep inboundConfig inboundStore) .empty
        [inboundDelivery "m" 2, inboundDelivery "s" 1]).inboxMessages.rows =
          [⟨"a", "m", "n", "hi", "", 784111777000⟩] := by
  decide +kernel

end Fetchit.Bridge
