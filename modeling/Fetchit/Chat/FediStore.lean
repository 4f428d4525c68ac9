import Fetchit.Lib.Snapshot
import Fetchit.Chat.FediThreads

/-! The calls that share the thread store of a handle. Each loads the sealed file, changes the
threads in memory and seals the whole file again; a sync waits for the bridge in between. -/
namespace Fetchit.Chat
open Lib Lib.Run FediThreads

/-- A direct message that was sent, delivered or not. -/
structure SentDm where
  actorUrl : String
  recipientActorUrl : String
  target : String
  body : String
  nowMs : Nat
  delivered : Bool
  deriving DecidableEq

def SentDm.record (dm : SentDm) : FediThreadMsg where
  outbound := true
  text := dm.body
  noteId := s!"{dm.actorUrl}/statuses/{dm.nowMs}"
  atMs := min dm.nowMs (2 ^ 63 - 1)
  peerActorUrl := dm.recipientActorUrl
  delivered := dm.delivered

/-- A sending call counts from the load with which it records what was sent. -/
inductive FediCall where
  | sendFediDm (dm : SentDm)
  | syncFediInbox
  | markFediThreadRead (label : String)
  deriving DecidableEq

section
variable (labels : Labels)

def FediCall.commit (call : FediCall) (items : List FediInboxMessage) (threads : FediThreads) :
    Option FediThreads :=
  match call with
  | .sendFediDm dm => some (threads.insert labels dm.target dm.record).2
  | .syncFediInbox => if items.isEmpty then none else some (threads.foldInbox labels items).2
  | .markFediThreadRead label =>
    match threads.markRead labels label with
    | (true, threads) => some threads
    | (false, _) => none

def FediCall.messages (call : FediCall) (items : List FediInboxMessage) :
    List (String × FediThreadMsg) :=
  match call with
  | .sendFediDm dm => [(dm.target, dm.record)]
  | .syncFediInbox => arrivals labels items
  | .markFediThreadRead _ => []

def FediCall.Stored (call : FediCall) (items : List FediInboxMessage) (threads : FediThreads) :
    Prop :=
  ∀ change ∈ call.messages labels items, change.2 ∈ threads.history labels change.1

abbrev fediStep := Snapshot.step (FediCall.commit labels)

/-- The file is the one the call loaded, and no message of the call finds another under its id. -/
abbrev SoleWriter := Snapshot.Unraced (FediCall.commit labels)
  fun call items threads => Undisputed labels threads (call.messages labels items)

end

theorem advances_commit (labels : Labels) :
    Snapshot.Advances (FediCall.commit labels)
      (fun call items threads => Undisputed labels threads (call.messages labels items))
      (Keeps labels) (FediCall.Stored labels) where
  refl := Keeps.refl
  trans := fun _ _ _ => Keeps.trans
  writes := by
    intro call items threads threads' written undisputed
    cases call with
    | sendFediDm dm =>
      cases written
      refine ⟨keeps_insert, ?_⟩
      intro change mem
      rw [List.mem_singleton.mp mem]
      exact mem_history_insert_self undisputed.1
    | syncFediInbox =>
      dsimp only [FediCall.commit] at written
      split at written
      · cases written
      · cases written
        exact ⟨keeps_foldInbox items threads, mem_history_foldInbox undisputed⟩
    | markFediThreadRead label =>
      dsimp only [FediCall.commit] at written
      split at written
      · rename_i moved
        cases written
        have kept : Keeps labels threads (threads.markRead labels label).2 := keeps_markRead
        rw [moved] at kept
        refine ⟨kept, ?_⟩
        intro change mem
        cases mem
      · cases written
  lasts := by
    intro call items threads threads' stored keeps change mem
    exact keeps.messages _ (stored change mem)

/-- Where every write finds the file it loaded, the file holds every message that was sent or
pulled, its cursor is the largest one saved, and no read mark has moved back. -/
theorem updates_kept_of_soleWriter (labels : Labels)
    (events : List (Snapshot.Event FediCall (List FediInboxMessage)))
    (sole : Meets (fediStep labels) (SoleWriter labels) (Snapshot.initial fresh) events) :
    let state := run (fediStep labels) (Snapshot.initial fresh) events
    (∀ entry ∈ state.finished, ∀ change ∈ entry.1.messages labels entry.2,
        change.2 ∈ state.value.history labels change.1) ∧
      state.value = state.saved.getLast?.getD fresh ∧
      (∀ past ∈ state.saved, past.cursorMs ≤ state.value.cursorMs) ∧
      ∀ past ∈ state.saved, ∀ label, ∀ mark ∈ past.readMs.get? label,
        ∃ mark' ∈ state.value.readMs.get? label, mark ≤ mark' := by
  have kept := Snapshot.kept_run (advances_commit labels) events sole
  refine ⟨kept.shows, kept.last, ?_, ?_⟩
  · intro past mem
    exact (kept.beyond past mem).cursor
  · intro past mem
    exact (kept.beyond past mem).marks

def exampleLabels : Labels := ⟨⟨fun _ => .error "", id, fun _ => ""⟩, id⟩

def exampleDm : SentDm := ⟨"u", "p", "p", "hi", 7, true⟩

def exampleItem : FediInboxMessage := ⟨"p", "n", "hello", "", 5⟩

theorem turns_keep_updates :
    exampleDm.record ∈ (run (fediStep exampleLabels) (Snapshot.initial fresh)
      [.load (.sendFediDm exampleDm), .finish 0 [], .load .syncFediInbox, .finish 0 [exampleItem],
        .load (.markFediThreadRead "p"), .finish 0 []]).value.history exampleLabels "p" :=
  (updates_kept_of_soleWriter exampleLabels _ (by decide +kernel)).1
    (.sendFediDm exampleDm, []) (by decide +kernel) ("p", exampleDm.record) (by decide +kernel)

/-- A message is sent while a sync waits for the bridge, and the sync writes back the file without
it. -/
theorem sync_drops_sent_message :
    let state := run (fediStep exampleLabels) (Snapshot.initial fresh)
      [.load .syncFediInbox, .load (.sendFediDm exampleDm), .finish 1 [], .finish 0 [exampleItem]]
    state.calls = [] ∧ (FediCall.sendFediDm exampleDm, []) ∈ state.finished ∧
      exampleDm.record ∉ state.value.history exampleLabels "p" := by
  decide +kernel

end Fetchit.Chat
