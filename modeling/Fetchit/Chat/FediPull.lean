import Fetchit.Lib.Run
import Fetchit.Bridge.Tables
import Fetchit.Chat.FediThreads

/-! Pulling the bridge's inbox. The bridge stamps a message with its clock in milliseconds, serves
at most 200 that are newer than the cursor, and the device moves its cursor to the newest stamp it
was served. -/
namespace Fetchit.Chat.FediPull
open Lib Lib.Run Bridge FediThreads

def served (row : InboxMessage) : FediInboxMessage :=
  ⟨row.senderActorUrl, row.noteId, row.text, row.published, row.createdMs⟩

def messagesLimit : Nat := 200

def getMessages (table : Table InboxMessage.key) (agentId : String) (sinceMs : Int) :
    List FediInboxMessage :=
  (inboxList table agentId sinceMs messagesLimit).map served

/-- A sync under way: it has loaded the threads, or also got its page. -/
inductive Pull where
  | loaded (threads : FediThreads)
  | answered (threads : FediThreads) (items : List FediInboxMessage)

structure PullState where
  table : Table InboxMessage.key
  file : FediThreads
  pulls : List Pull

inductive PullEvent where
  | insert (row : InboxMessage)
  | load
  | answer (index : Nat)
  | save (index : Nat)
  | fail (index : Nat)

section
variable (labels : Labels) (agentId : String)

def Pull.outcome : Pull → FediThreads
  | .loaded threads => threads
  | .answered threads items => (threads.foldInbox labels items).2

def pullStep (state : PullState) : PullEvent → PullState
  | .insert row => { state with table := (state.table.insertOrIgnore row).2 }
  | .load => { state with pulls := state.pulls ++ [.loaded state.file] }
  | .fail index => { state with pulls := state.pulls.eraseIdx index }
  | .answer index =>
    match state.pulls[index]? with
    | some (.loaded threads) =>
      let items := getMessages state.table agentId threads.cursorMs
      { state with pulls := state.pulls.set index (.answered threads items) }
    | _ => state
  | .save index =>
    match state.pulls[index]? with
    | some (.answered threads items) =>
      if items.isEmpty then { state with pulls := state.pulls.eraseIdx index }
      else { state with
        file := (threads.foldInbox labels items).2
        pulls := state.pulls.eraseIdx index }
    | _ => state

/-- No row that the limit leaves out has the stamp of a row that is served. -/
def Untied (table : Table InboxMessage.key) (sinceMs : Int) : Prop :=
  ∀ row ∈ table.rows, row.actorId = agentId → sinceMs < row.createdMs →
    row ∉ inboxList table agentId sinceMs messagesLimit →
      ∀ other ∈ inboxList table agentId sinceMs messagesLimit, other.createdMs ≠ row.createdMs

/-- A message is stored with a stamp that no cursor has reached, nor will reach with the pages
under way, and no page ends within a millisecond. -/
def Timely (state : PullState) : PullEvent → Prop
  | .insert row => row.actorId = agentId → state.table.holds row.key = false →
      state.file.cursorMs < row.createdMs ∧
        ∀ pull ∈ state.pulls, (pull.outcome labels).cursorMs < row.createdMs
  | .answer index =>
    match state.pulls[index]? with
    | some (.loaded threads) => Untied agentId state.table threads.cursorMs
    | _ => True
  | _ => True

instance (table : Table InboxMessage.key) (sinceMs : Int) :
    Decidable (Untied agentId table sinceMs) := by
  unfold Untied
  infer_instance

instance (state : PullState) (event : PullEvent) :
    Decidable (Timely labels agentId state event) := by
  unfold Timely
  split
  · infer_instance
  · split <;> infer_instance
  · infer_instance

def Copied (threads : FediThreads) (row : InboxMessage) : Prop :=
  received (served row) ∈ threads.history labels (authorLabel labels row.senderActorUrl)

instance (threads : FediThreads) (row : InboxMessage) : Decidable (Copied labels threads row) := by
  unfold Copied
  infer_instance

def Sourced (table : Table InboxMessage.key) (threads : FediThreads) : Prop :=
  ∀ label, ∀ msg ∈ threads.history labels label,
    ∃ row ∈ table.rows, row.actorId = agentId ∧ msg = received (served row)

/-- The cursor has passed no message that is not there. -/
structure Sound (table : Table InboxMessage.key) (threads : FediThreads) : Prop where
  sourced : Sourced labels agentId table threads
  covered : ∀ row ∈ table.rows, row.actorId = agentId → row.createdMs ≤ threads.cursorMs →
    Copied labels threads row

structure SoundPulls (state : PullState) : Prop where
  file : Sound labels agentId state.table state.file
  pulls : ∀ pull ∈ state.pulls, Sound labels agentId state.table (pull.outcome labels)

end

variable {labels : Labels} {agentId : String} {table : Table InboxMessage.key}
  {threads : FediThreads}

variable {row : InboxMessage} {state : PullState}

section
variable (sourced : Sourced labels agentId table threads) (mem : row ∈ table.rows)
  (owned : row.actorId = agentId) (label : String)
include sourced mem owned

theorem Sourced.insert :
    Sourced labels agentId table (threads.insert labels label (received (served row))).2 := by
  intro other msg here
  rcases mem_history_insert.mp here with known | ⟨_, _, rfl⟩
  · exact sourced other msg known
  · exact ⟨row, mem, owned, rfl⟩

theorem Sourced.undisputed :
    ∀ known ∈ threads.history labels label, known.noteId = row.noteId →
      known = received (served row) := by
  intro known here same
  obtain ⟨source, there, owned', rfl⟩ := sourced label known here
  have key : source.key = row.key := Prod.ext (owned'.trans owned.symm) same
  rw [Table.eq_of_key_eq there mem key]

end

theorem Sourced.foldInbox {page : List InboxMessage}
    (listed : ∀ row ∈ page, row ∈ table.rows ∧ row.actorId = agentId) :
    ∀ {threads : FediThreads}, Sourced labels agentId table threads →
      Sourced labels agentId table (threads.foldInbox labels (page.map served)).2 ∧
        Undisputed labels threads (arrivals labels (page.map served)) := by
  induction page with
  | nil =>
    intro threads sourced
    exact ⟨sourced, trivial⟩
  | cons row page ih =>
    intro threads sourced
    obtain ⟨⟨mem, owned⟩, rest⟩ := List.forall_mem_cons.mp listed
    have advanced : Sourced labels agentId table
        { threads with cursorMs := max threads.cursorMs row.createdMs } := sourced
    have next : Sourced labels agentId table (threads.foldItem labels (served row)).2 :=
      advanced.insert mem owned _
    refine ⟨(ih rest next).1, sourced.undisputed mem owned _, ?_⟩
    exact (ih rest (sourced.insert mem owned _)).2

theorem Sound.insertOrIgnore (sound : Sound labels agentId table threads)
    (later : row.actorId = agentId → table.holds row.key = false →
      threads.cursorMs < row.createdMs) :
    Sound labels agentId (table.insertOrIgnore row).2 threads := by
  refine ⟨?_, ?_⟩
  · intro label msg here
    obtain ⟨source, mem, owned, same⟩ := sound.sourced label msg here
    exact ⟨source, Table.mem_insertOrIgnore.mpr (.inl mem), owned, same⟩
  · intro other mem owned reached
    rcases Table.mem_insertOrIgnore.mp mem with mem | ⟨new, rfl⟩
    · exact sound.covered other mem owned reached
    · exact absurd reached (not_le.mpr (later owned new))

theorem Sound.foldInbox (sound : Sound labels agentId table threads)
    (untied : Untied agentId table threads.cursorMs) :
    Sound labels agentId table
      (threads.foldInbox labels (getMessages table agentId threads.cursorMs)).2 := by
  unfold getMessages
  generalize paged : inboxList table agentId threads.cursorMs messagesLimit = page
  have listed : ∀ row ∈ page, row ∈ table.rows ∧ row.actorId = agentId := by
    intro row mem
    rw [← paged] at mem
    exact ⟨(mem_inboxList mem).1, (mem_inboxList mem).2.1⟩
  obtain ⟨sourced, undisputed⟩ := Sourced.foldInbox listed sound.sourced
  refine ⟨sourced, ?_⟩
  intro row mem owned reached
  by_cases old : row.createdMs ≤ threads.cursorMs
  · exact (keeps_foldInbox _ _).messages _ (sound.covered row mem owned old)
  · by_cases inPage : row ∈ page
    · refine mem_history_foldInbox undisputed
        (authorLabel labels row.senderActorUrl, received (served row)) ?_
      exact List.mem_map.mpr ⟨served row, List.mem_map.mpr ⟨row, inPage, rfl⟩, rfl⟩
    · refine absurd reached (not_le.mpr (cursorMs_foldInbox_lt.mpr ⟨not_le.mp old, ?_⟩))
      intro item here
      obtain ⟨other, there, rfl⟩ := List.mem_map.mp here
      rw [← paged] at inPage there
      have le := le_of_notMem_inboxList mem owned (not_le.mp old) inPage there
      exact lt_of_le_of_ne le (untied row mem owned (not_le.mp old) inPage other there)

theorem SoundPulls.erase (sound : SoundPulls labels agentId state) (index : Nat) :
    ∀ pull ∈ state.pulls.eraseIdx index,
      Sound labels agentId state.table (pull.outcome labels) := by
  intro pull mem
  exact sound.pulls pull (List.mem_of_mem_eraseIdx mem)

theorem SoundPulls.step (sound : SoundPulls labels agentId state) (event : PullEvent)
    (timely : Timely labels agentId state event) :
    SoundPulls labels agentId (pullStep labels agentId state event) := by
  cases event with
  | insert row =>
    refine ⟨sound.file.insertOrIgnore fun owned new => (timely owned new).1, ?_⟩
    intro pull mem
    exact (sound.pulls pull mem).insertOrIgnore fun owned new => (timely owned new).2 pull mem
  | load =>
    refine ⟨sound.file, ?_⟩
    intro pull mem
    rcases List.mem_append.mp mem with mem | mem
    · exact sound.pulls pull mem
    · rw [List.mem_singleton.mp mem]
      exact sound.file
  | fail index => exact ⟨sound.file, sound.erase index⟩
  | answer index =>
    dsimp only [Timely] at timely
    dsimp only [pullStep]
    split
    · rename_i threads found
      rw [found] at timely
      refine ⟨sound.file, ?_⟩
      intro pull mem
      rcases List.mem_or_eq_of_mem_set mem with mem | rfl
      · exact sound.pulls pull mem
      · exact (sound.pulls _ (List.mem_of_getElem? found)).foldInbox timely
    · exact sound
  | save index =>
    dsimp only [pullStep]
    split
    · rename_i threads items found
      split
      · exact ⟨sound.file, sound.erase index⟩
      · exact ⟨sound.pulls _ (List.mem_of_getElem? found), sound.erase index⟩
    · exact sound

def PullState.start : PullState := ⟨.empty, fresh, []⟩

theorem soundPulls_start : SoundPulls labels agentId .start := by
  refine ⟨⟨?_, ?_⟩, ?_⟩
  · intro label msg mem
    cases mem
  · intro row mem
    cases mem
  · intro pull mem
    cases mem

def pullEvents (index : Nat) : List PullEvent := [.load, .answer index, .save index]

theorem run_pullEvents (state : PullState) :
    run (pullStep labels agentId) state (pullEvents state.pulls.length) =
      { state with file := (state.file.foldInbox labels
          (getMessages state.table agentId state.file.cursorMs)).2 } := by
  generalize paged : getMessages state.table agentId state.file.cursorMs = items
  have answered : pullStep labels agentId (pullStep labels agentId state .load)
      (.answer state.pulls.length) =
        { state with pulls := state.pulls ++ [.answered state.file items] } := by
    dsimp only [pullStep]
    rw [List.getElem?_concat_length]
    dsimp only
    rw [List.set_append_right _ _ le_rfl, Nat.sub_self, paged]
    rfl
  unfold pullEvents
  rw [run_cons, run_cons, run_cons, run_nil, answered]
  dsimp only [pullStep]
  rw [List.getElem?_concat_length, List.eraseIdx_append_of_length_le le_rfl, Nat.sub_self]
  dsimp only
  split
  · rename_i empty
    rw [List.isEmpty_iff.mp empty, List.eraseIdx_zero, List.tail_cons, List.append_nil]
    rfl
  · rw [List.eraseIdx_zero, List.tail_cons, List.append_nil]

def pending (agentId : String) (table : Table InboxMessage.key) (cursorMs : Int) :
    List InboxMessage :=
  table.rows.filter fun row => row.actorId = agentId && cursorMs < row.createdMs

theorem getMessages_eq_nil :
    getMessages table agentId sinceMs = [] ↔ pending agentId table sinceMs = [] := by
  unfold getMessages pending
  rw [List.map_eq_nil_iff, inboxList_eq_nil (by decide)]
  simp

theorem pending_filter (le : early ≤ late) :
    pending agentId table late =
      (pending agentId table early).filter fun row => late < row.createdMs := by
  unfold pending
  rw [List.filter_filter]
  refine List.filter_congr fun row _ => ?_
  rw [Bool.eq_iff_iff]
  simp only [Bool.and_eq_true, decide_eq_true_eq]
  exact ⟨fun h => ⟨h.2, h.1, le.trans_lt h.2⟩, fun h => ⟨h.2.1, h.1⟩⟩

theorem pending_foldInbox_lt (labels : Labels)
    (more : getMessages table agentId threads.cursorMs ≠ []) :
    (pending agentId table (threads.foldInbox labels
        (getMessages table agentId threads.cursorMs)).2.cursorMs).length <
      (pending agentId table threads.cursorMs).length := by
  obtain ⟨item, mem⟩ := List.exists_mem_of_ne_nil _ more
  obtain ⟨row, listed, rfl⟩ := List.mem_map.mp mem
  obtain ⟨there, owned, newer⟩ := mem_inboxList listed
  have keeps : Keeps labels threads (threads.foldInbox labels
      (getMessages table agentId threads.cursorMs)).2 := keeps_foldInbox _ threads
  rw [pending_filter keeps.cursor, List.length_filter_lt_length_iff_exists]
  refine ⟨row, List.mem_filter.mpr ⟨there, by simp [owned, newer]⟩, ?_⟩
  rw [decide_eq_true_eq, cursorMs_foldInbox_lt]
  intro passed
  exact lt_irrefl _ (passed.2 _ mem)

def pullsInTurn (index : Nat) : Nat → List PullEvent
  | 0 => []
  | n + 1 => pullEvents index ++ pullsInTurn index n

theorem run_pullsInTurn_of_empty (empty : getMessages state.table agentId state.file.cursorMs = [])
    (n : Nat) :
    run (pullStep labels agentId) state (pullsInTurn state.pulls.length n) = state := by
  induction n with
  | zero => rfl
  | succ n ih =>
    dsimp only [pullsInTurn]
    rw [run_append, run_pullEvents, empty]
    exact ih

theorem drained (labels : Labels) (n : Nat) :
    ∀ state : PullState, (pending agentId state.table state.file.cursorMs).length ≤ n →
      let final := run (pullStep labels agentId) state (pullsInTurn state.pulls.length n)
      final.table = state.table ∧ getMessages final.table agentId final.file.cursorMs = [] := by
  induction n with
  | zero =>
    intro state none
    exact ⟨rfl, getMessages_eq_nil.mpr (List.length_eq_zero_iff.mp (Nat.le_zero.mp none))⟩
  | succ n ih =>
    intro state bound
    by_cases more : getMessages state.table agentId state.file.cursorMs = []
    · rw [run_pullsInTurn_of_empty more]
      exact ⟨rfl, more⟩
    · dsimp only [pullsInTurn]
      rw [run_append, run_pullEvents]
      refine ih { state with file := _ } ?_
      have fewer := pending_foldInbox_lt labels more
      dsimp only
      omega

theorem Sound.copied (sound : Sound labels agentId table threads)
    (drained : getMessages table agentId threads.cursorMs = []) (mem : row ∈ table.rows)
    (owned : row.actorId = agentId) : Copied labels threads row := by
  refine sound.covered row mem owned ?_
  rw [getMessages, List.map_eq_nil_iff, inboxList_eq_nil (by decide)] at drained
  exact drained row mem owned

/-- Where every message is stamped after all cursors and no page ends within a millisecond, the
cursor passes no message that the threads lack, and enough syncs copy every message. -/
theorem pulls_complete_of_timely (labels : Labels) (agentId : String) (events : List PullEvent)
    (timely : Meets (pullStep labels agentId) (Timely labels agentId) .start events) :
    let state := run (pullStep labels agentId) .start events
    (∀ row ∈ state.table.rows, row.actorId = agentId → row.createdMs ≤ state.file.cursorMs →
        Copied labels state.file row) ∧
      ∀ n, (pending agentId state.table state.file.cursorMs).length ≤ n →
        let later := pullsInTurn state.pulls.length n
        Meets (pullStep labels agentId) (Timely labels agentId) state later →
        let final := run (pullStep labels agentId) state later
        getMessages final.table agentId final.file.cursorMs = [] ∧
          ∀ row ∈ state.table.rows, row.actorId = agentId → Copied labels final.file row := by
  intro state
  have keeps : ∀ state event, SoundPulls labels agentId state → Timely labels agentId state event →
      SoundPulls labels agentId (pullStep labels agentId state event) :=
    fun _ event sound => sound.step event
  have sound : SoundPulls labels agentId state :=
    run_invariant _ keeps events _ soundPulls_start timely
  refine ⟨sound.file.covered, ?_⟩
  intro n enough later timely' final
  have sound' : SoundPulls labels agentId final := run_invariant _ keeps later _ sound timely'
  obtain ⟨same, empty⟩ := drained labels n state enough
  refine ⟨empty, ?_⟩
  intro row mem owned
  exact sound'.file.copied empty (same ▸ mem) owned

def pulledLabels : Labels := ⟨⟨fun _ => .error "", id, fun _ => ""⟩, id⟩

def pulledRow (noteId : String) (createdMs : Int) : InboxMessage :=
  ⟨"a", "p", noteId, "hi", "", createdMs⟩

/-- Two messages of one millisecond that are both there when the device pulls. -/
theorem timely_messages_copied :
    let state := run (pullStep pulledLabels "a") .start
      [.insert (pulledRow "m" 5), .insert (pulledRow "n" 5)]
    let final := run (pullStep pulledLabels "a") state (pullsInTurn 0 2)
    Copied pulledLabels final.file (pulledRow "m" 5) ∧
      Copied pulledLabels final.file (pulledRow "n" 5) := by
  intro state final
  have copied := ((pulls_complete_of_timely pulledLabels "a"
    [.insert (pulledRow "m" 5), .insert (pulledRow "n" 5)] (by decide +kernel)).2 2
      (by decide +kernel) (by decide +kernel)).2
  exact ⟨copied (pulledRow "m" 5) (by decide +kernel) rfl,
    copied (pulledRow "n" 5) (by decide +kernel) rfl⟩

/-- The second message of the millisecond is stored after the first was pulled. -/
theorem second_message_of_millisecond_skipped :
    let state := run (pullStep pulledLabels "a") .start
      ([.insert (pulledRow "m" 5)] ++ pullEvents 0 ++ [.insert (pulledRow "n" 5)])
    pulledRow "n" 5 ∈ state.table.rows ∧ ∀ n,
      let final := run (pullStep pulledLabels "a") state (pullsInTurn 0 n)
      getMessages final.table "a" final.file.cursorMs = [] ∧
        ¬ Copied pulledLabels final.file (pulledRow "n" 5) := by
  intro state
  have empty : getMessages state.table "a" state.file.cursorMs = [] := by decide +kernel
  refine ⟨by decide +kernel, ?_⟩
  intro n
  have same : run (pullStep pulledLabels "a") state (pullsInTurn 0 n) = state :=
    run_pullsInTurn_of_empty empty n
  rw [same]
  exact ⟨empty, by decide +kernel⟩

end Fetchit.Chat.FediPull
