import Mathlib.Data.List.DropRight
import Fetchit.Lib.Run
import Fetchit.Chat.Types

/-! The unread badge of a conversation. The read mark is the highest stamp in the history, and the
badge counts the messages of others that are stamped above it. -/
namespace Fetchit.Chat
open Lib.Run

namespace Conversation

def unread (localAgentIdHex : String) (conv : Conversation) : Nat :=
  min (conv.history.countP fun entry =>
    entry.senderAgentIdHex != localAgentIdHex && conv.readMs < entry.tsMs) (2 ^ 32 - 1)

def markRead (conv : Conversation) : Bool × Conversation :=
  match (conv.history.map (·.tsMs)).max? with
  | none => (false, conv)
  | some newest =>
    if newest ≤ conv.readMs then (false, conv) else (true, { conv with readMs := newest })

theorem le_readMs_markRead {conv : Conversation} (mem : entry ∈ conv.history) :
    entry.tsMs ≤ conv.markRead.2.readMs := by
  have le : ∀ newest, (conv.history.map (·.tsMs)).max? = some newest → entry.tsMs ≤ newest := by
    intro newest found
    exact (List.max?_eq_some_iff.mp found).2 _ (List.mem_map_of_mem mem)
  unfold markRead
  split
  · rename_i none
    rw [List.max?_eq_none_iff, List.map_eq_nil_iff] at none
    rw [none] at mem
    cases mem
  · rename_i newest found
    split
    · exact (le newest found).trans ‹_›
    · exact le newest found

theorem history_markRead (conv : Conversation) : conv.markRead.2.history = conv.history := by
  unfold markRead
  split
  · rfl
  · split <;> rfl

end Conversation

namespace Unread

inductive Event where
  | push (entry : HistoryEntry)
  | mark

/-- A conversation and the number of messages pushed since the last mark. -/
def step (state : Conversation × Nat) : Event → Conversation × Nat
  | .push entry => (state.1.pushHistory entry, state.2 + 1)
  | .mark => (state.1.markRead.2, 0)

variable (localAgentIdHex : String)

/-- A message of another is stamped above the read mark that it meets. -/
def Stamped (state : Conversation × Nat) : Event → Prop
  | .push entry => entry.senderAgentIdHex ≠ localAgentIdHex → state.1.readMs < entry.tsMs
  | .mark => True

def pushedSince (state : Conversation × Nat) : List HistoryEntry :=
  state.1.history.rtake state.2

structure Marked (state : Conversation × Nat) : Prop where
  bounded : state.1.history.length ≤ historyCap
  before : ∀ entry ∈ state.1.history.rdrop state.2, entry.tsMs ≤ state.1.readMs
  since : ∀ entry ∈ pushedSince state, entry.senderAgentIdHex ≠ localAgentIdHex →
    state.1.readMs < entry.tsMs

variable {localAgentIdHex}

theorem pushHistory_history (conv : Conversation) (entry : HistoryEntry)
    (bounded : conv.history.length ≤ historyCap) :
    ∃ evicted, (conv.pushHistory entry).history = conv.history.drop evicted ++ [entry] ∧
      conv.history.length - evicted + 1 ≤ historyCap := by
  unfold Conversation.pushHistory
  unfold historyCap at *
  split
  · exact ⟨1, rfl, by omega⟩
  · exact ⟨0, rfl, by omega⟩

theorem Marked.push (marked : Marked localAgentIdHex state)
    (stamped : Stamped localAgentIdHex state (.push entry)) :
    Marked localAgentIdHex (step state (.push entry)) := by
  obtain ⟨evicted, history, bounded⟩ := pushHistory_history state.1 entry marked.bounded
  refine ⟨?_, ?_, ?_⟩
  · simp [step, history, bounded]
  · simp only [step, history, List.rdrop_concat_succ]
    intro old mem
    rw [List.rdrop, List.length_drop, Nat.sub_right_comm, ← List.drop_take] at mem
    exact marked.before old (List.mem_of_mem_drop mem)
  · simp only [pushedSince, step, history, List.rtake_concat_succ]
    intro new mem
    rcases List.mem_append.mp mem with mem | mem
    · rw [List.rtake, List.length_drop, List.drop_drop] at mem
      exact marked.since new (List.drop_subset_drop_left _ (by omega) mem)
    · rw [List.mem_singleton.mp mem]
      exact stamped

theorem Marked.step (marked : Marked localAgentIdHex state)
    (stamped : Stamped localAgentIdHex state event) :
    Marked localAgentIdHex (step state event) := by
  cases event with
  | push entry => exact marked.push stamped
  | mark =>
    refine ⟨?_, ?_, ?_⟩
    · simp only [Unread.step, Conversation.history_markRead]
      exact marked.bounded
    · intro entry mem
      simp only [Unread.step, Conversation.history_markRead] at mem
      exact Conversation.le_readMs_markRead (List.mem_of_mem_take mem)
    · intro entry mem
      simp [pushedSince, Unread.step] at mem

/-- While no message of another arrives with a stamp at or below the read mark, the badge is the
number of retained messages of others that were pushed since the last mark. -/
theorem unread_eq_pushed_since (localAgentIdHex : String) (conv : Conversation)
    (empty : conv.history = []) (events : List Event)
    (stamped : Meets step (Stamped localAgentIdHex) (conv, 0) events) :
    let final := run step (conv, 0) events
    final.1.unread localAgentIdHex =
      (pushedSince final).countP fun entry => entry.senderAgentIdHex != localAgentIdHex := by
  intro final
  have starts : Marked localAgentIdHex (conv, 0) := by
    constructor <;> simp [empty, pushedSince]
  have marked : Marked localAgentIdHex final :=
    run_invariant (Marked localAgentIdHex) (fun _ _ => Marked.step) events _ starts stamped
  have small : final.1.history.length ≤ 2 ^ 32 - 1 := marked.bounded.trans (by decide)
  rw [Conversation.unread, Nat.min_eq_left (List.countP_le_length.trans small)]
  have split : final.1.history.rdrop final.2 ++ pushedSince final = final.1.history :=
    List.take_append_drop _ _
  rw [← split, List.countP_append, List.countP_eq_zero.mpr, Nat.zero_add]
  · refine List.countP_congr ?_
    intro entry mem
    simpa using marked.since entry mem
  · intro entry mem
    simp [marked.before entry mem]

theorem badge_counts_pushed :
    let entry (tsMs : Nat) : HistoryEntry := ⟨"bob", none, "", tsMs, "", none, none, none, 0⟩
    let conv : Conversation := .fromWelcome 0 ⟨"", "", 0, [], none⟩ .confirmed
    let events := [.push (entry 5), .mark, .push (entry 6)]
    Meets step (Stamped "alice") (conv, 0) events ∧
      (run step (conv, 0) events).1.unread "alice" = 1 := by
  intro entry conv events
  have stamped : Meets step (Stamped "alice") (conv, 0) events :=
    ⟨fun _ => by decide, trivial, fun _ => by decide, trivial⟩
  exact ⟨stamped, unread_eq_pushed_since "alice" conv rfl events stamped⟩

/-- A message that arrives late is stamped below the mark, and the badge does not show it. -/
theorem late_message_not_badged :
    let entry (tsMs : Nat) : HistoryEntry := ⟨"bob", none, "", tsMs, "", none, none, none, 0⟩
    let final := run step (.fromWelcome 0 ⟨"", "", 0, [], none⟩ .confirmed, 0)
      [.push (entry 5), .mark, .push (entry 4)]
    final.1.unread "alice" = 0 ∧ pushedSince final = [entry 4] := by
  decide

end Unread

end Fetchit.Chat
