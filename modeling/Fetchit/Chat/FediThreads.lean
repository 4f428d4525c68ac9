import Mathlib.Data.List.Sort
import Fetchit.Lib.SortedMap
import Fetchit.Lib.Scan
import Fetchit.Fedi.Json

/-! The fediverse threads of a handle: every direct message that was sent or pulled, grouped by
correspondent, with the cursor over the bridge's inbox and a read mark for each thread. -/
namespace Fetchit.Chat
open Lib Fedi.Json

structure FediInboxMessage where
  senderActorUrl : String
  noteId : String
  text : String
  published : String
  createdMs : Int
  deriving DecidableEq

structure FediThreadMsg where
  outbound : Bool
  text : String
  noteId : String
  atMs : Int
  peerActorUrl : String
  delivered : Bool
  deriving DecidableEq

structure FediThreads where
  cursorMs : Int
  threads : SortedMap String (List FediThreadMsg)
  readMs : SortedMap String Int
  deriving DecidableEq

/-- What the labels are computed with: the parser of addresses and the lower case of a text. -/
structure Labels where
  parsers : Parsers
  lowercase : String → String

def stripAt : List Char → List Char
  | '@' :: rest => rest
  | text => text

def canonicalThreadLabel (labels : Labels) (text : String) : String :=
  labels.lowercase (String.ofList (stripAt (Scan.trimChars text.toList)))

def lastSegment (path : String) : String :=
  match path.toList with
  | '/' :: rest => String.ofList (rest.reverse.takeWhile (· ≠ '/')).reverse
  | _ => ""

def authorLabel (labels : Labels) (actorUrl : String) : String :=
  match labels.parsers.parseUrl actorUrl with
  | .error _ => actorUrl
  | .ok url =>
    let host := url.hostStr.getD ""
    let name := lastSegment url.path
    if name.isEmpty then host else name ++ "@" ++ host

namespace FediThreads

def fresh : FediThreads := ⟨0, .empty, .empty⟩

section
variable (labels : Labels)

def history (threads : FediThreads) (label : String) : List FediThreadMsg :=
  (threads.threads.get? (canonicalThreadLabel labels label)).getD []

def insert (threads : FediThreads) (label : String) (msg : FediThreadMsg) : Bool × FediThreads :=
  let list := threads.history labels label
  if list.any fun m => m.noteId = msg.noteId then (false, threads)
  else (true, { threads with
    threads := threads.threads.insert (canonicalThreadLabel labels label)
      ((list ++ [msg]).insertionSort fun first second => first.atMs ≤ second.atMs) })

def received (item : FediInboxMessage) : FediThreadMsg :=
  ⟨false, item.text, item.noteId, item.createdMs, item.senderActorUrl, false⟩

def foldItem (threads : FediThreads) (item : FediInboxMessage) : Bool × FediThreads :=
  insert labels { threads with cursorMs := max threads.cursorMs item.createdMs }
    (authorLabel labels item.senderActorUrl) (received item)

def foldInbox (threads : FediThreads) : List FediInboxMessage → Nat × FediThreads
  | [] => (0, threads)
  | item :: items =>
    let (new, threads) := threads.foldItem labels item
    let (inserted, threads) := threads.foldInbox items
    ((if new then 1 else 0) + inserted, threads)

def markRead (threads : FediThreads) (label : String) : Bool × FediThreads :=
  let label := canonicalThreadLabel labels label
  match (threads.threads.get? label).bind List.getLast? with
  | none => (false, threads)
  | some newest =>
    if newest.atMs ≤ (threads.readMs.get? label).getD (-2 ^ 63) then (false, threads)
    else (true, { threads with readMs := threads.readMs.insert label newest.atMs })

end

variable {labels : Labels} {threads : FediThreads} {label : String} {msg : FediThreadMsg}

@[simp] theorem cursorMs_insert :
    (threads.insert labels label msg).2.cursorMs = threads.cursorMs := by
  unfold insert
  dsimp only
  split <;> rfl

@[simp] theorem readMs_insert :
    (threads.insert labels label msg).2.readMs = threads.readMs := by
  unfold insert
  dsimp only
  split <;> rfl

theorem mem_history_insert :
    m ∈ (threads.insert labels label msg).2.history labels other ↔
      m ∈ threads.history labels other ∨
        (canonicalThreadLabel labels other = canonicalThreadLabel labels label ∧
          (∀ known ∈ threads.history labels label, known.noteId ≠ msg.noteId) ∧ m = msg) := by
  unfold insert
  dsimp only
  split
  · rename_i known
    obtain ⟨old, mem, same⟩ := List.any_eq_true.mp known
    refine ⟨.inl, Or.rec id ?_⟩
    rintro ⟨_, new, _⟩
    exact absurd (of_decide_eq_true same) (new old mem)
  · rename_i new
    have fresh : ∀ known ∈ threads.history labels label, known.noteId ≠ msg.noteId := by
      simpa using new
    unfold history
    rw [SortedMap.get?_insert]
    split
    · rename_i same
      rw [same, Option.getD_some, List.mem_insertionSort, List.mem_append, List.mem_singleton]
      refine or_congr_right ⟨fun here => ⟨rfl, fresh, here⟩, fun here => here.2.2⟩
    · rename_i differs
      exact ⟨.inl, Or.rec id fun here => absurd here.1 differs⟩

/-- Nothing is lost from one store to the next: no message, no part of the cursor's way and no
part of a read mark's. -/
structure Keeps (labels : Labels) (older newer : FediThreads) : Prop where
  messages : ∀ label, older.history labels label ⊆ newer.history labels label
  cursor : older.cursorMs ≤ newer.cursorMs
  marks : ∀ label, ∀ mark ∈ older.readMs.get? label, ∃ mark' ∈ newer.readMs.get? label,
    mark ≤ mark'

theorem Keeps.refl (threads : FediThreads) : Keeps labels threads threads :=
  ⟨fun _ => List.Subset.refl _, le_refl _, fun _ mark here => ⟨mark, here, le_refl mark⟩⟩

theorem Keeps.trans (h : Keeps labels first second)
    (h' : Keeps labels second third) : Keeps labels first third := by
  refine ⟨fun label => List.Subset.trans (h.messages label) (h'.messages label),
    h.cursor.trans h'.cursor, ?_⟩
  intro label mark here
  obtain ⟨mark', here', le⟩ := h.marks label mark here
  obtain ⟨mark'', here'', le'⟩ := h'.marks label mark' here'
  exact ⟨mark'', here'', le.trans le'⟩

theorem keeps_insert : Keeps labels threads (threads.insert labels label msg).2 where
  messages := fun _ _ mem => mem_history_insert.mpr (.inl mem)
  cursor := by rw [cursorMs_insert]
  marks := by
    intro label mark here
    rw [readMs_insert]
    exact ⟨mark, here, le_refl mark⟩

theorem keeps_foldItem (item : FediInboxMessage) :
    Keeps labels threads (threads.foldItem labels item).2 := by
  have advanced : Keeps labels threads
      { threads with cursorMs := max threads.cursorMs item.createdMs } :=
    ⟨fun _ => List.Subset.refl _, le_max_left _ _,
      fun _ mark here => ⟨mark, here, le_refl mark⟩⟩
  exact advanced.trans keeps_insert

theorem keeps_foldInbox (items : List FediInboxMessage) :
    ∀ threads : FediThreads, Keeps labels threads (threads.foldInbox labels items).2 := by
  induction items with
  | nil =>
    intro threads
    exact Keeps.refl threads
  | cons item items ih =>
    intro threads
    exact (keeps_foldItem item).trans (ih _)

theorem keeps_markRead : Keeps labels threads (threads.markRead labels label).2 := by
  unfold markRead
  dsimp only
  split
  · exact Keeps.refl threads
  · rename_i newest found
    split
    · exact Keeps.refl threads
    · rename_i moves
      refine ⟨fun _ => List.Subset.refl _, le_refl _, ?_⟩
      intro other mark here
      rw [SortedMap.get?_insert]
      split
      · rename_i same
        rw [← same, Option.mem_def.mp here] at moves
        exact ⟨newest.atMs, rfl, (not_le.mp moves).le⟩
      · exact ⟨mark, here, le_refl mark⟩

theorem cursorMs_foldItem (item : FediInboxMessage) :
    (threads.foldItem labels item).2.cursorMs = max threads.cursorMs item.createdMs :=
  cursorMs_insert

theorem cursorMs_foldInbox_lt :
    ∀ {threads : FediThreads}, (threads.foldInbox labels items).2.cursorMs < bound ↔
      threads.cursorMs < bound ∧ ∀ item ∈ items, item.createdMs < bound := by
  induction items with
  | nil =>
    exact ⟨fun h => ⟨h, fun _ mem => by cases mem⟩, And.left⟩
  | cons item items ih =>
    intro threads
    change ((threads.foldItem labels item).2.foldInbox labels items).2.cursorMs < bound ↔ _
    rw [ih, cursorMs_foldItem, max_lt_iff, List.forall_mem_cons, and_assoc]

def Undisputed (labels : Labels) (threads : FediThreads) :
    List (String × FediThreadMsg) → Prop
  | [] => True
  | (label, msg) :: rest =>
    (∀ known ∈ threads.history labels label, known.noteId = msg.noteId → known = msg) ∧
      Undisputed labels (threads.insert labels label msg).2 rest

instance decidableUndisputed : ∀ (threads : FediThreads) (changes : List (String × FediThreadMsg)),
    Decidable (Undisputed labels threads changes)
  | _, [] => isTrue trivial
  | threads, (label, msg) :: rest =>
    have := decidableUndisputed (threads.insert labels label msg).2 rest
    inferInstanceAs (Decidable (_ ∧ _))

theorem mem_history_insert_self
    (undisputed : ∀ known ∈ threads.history labels label, known.noteId = msg.noteId →
      known = msg) :
    msg ∈ (threads.insert labels label msg).2.history labels label := by
  rw [mem_history_insert]
  by_cases known : ∃ old ∈ threads.history labels label, old.noteId = msg.noteId
  · obtain ⟨old, mem, same⟩ := known
    exact .inl (undisputed old mem same ▸ mem)
  · refine .inr ⟨rfl, ?_, rfl⟩
    intro old mem same
    exact known ⟨old, mem, same⟩

theorem insert_cursor (cursor : Int) :
    ({ threads with cursorMs := cursor }.insert labels label msg).2 =
      { (threads.insert labels label msg).2 with cursorMs := cursor } := by
  unfold insert history
  dsimp only
  split <;> rfl

theorem undisputed_cursor (cursor : Int) :
    ∀ {threads : FediThreads}, Undisputed labels { threads with cursorMs := cursor } changes ↔
      Undisputed labels threads changes := by
  induction changes with
  | nil =>
    exact Iff.rfl
  | cons change rest ih =>
    intro threads
    unfold Undisputed
    rw [insert_cursor, ih]
    rfl

def arrivals (labels : Labels) (items : List FediInboxMessage) : List (String × FediThreadMsg) :=
  items.map fun item => (authorLabel labels item.senderActorUrl, received item)

theorem mem_history_foldInbox :
    ∀ {threads : FediThreads}, Undisputed labels threads (arrivals labels items) →
      ∀ change ∈ arrivals labels items,
        change.2 ∈ (threads.foldInbox labels items).2.history labels change.1 := by
  induction items with
  | nil =>
    intro threads _ change mem
    cases mem
  | cons item items ih =>
    intro threads undisputed change mem
    have rest : Undisputed labels (threads.foldItem labels item).2 (arrivals labels items) := by
      unfold foldItem
      rw [insert_cursor, undisputed_cursor]
      exact undisputed.2
    rcases List.mem_cons.mp mem with rfl | mem
    · have here : received item ∈ (threads.foldItem labels item).2.history labels
          (authorLabel labels item.senderActorUrl) := mem_history_insert_self undisputed.1
      exact (keeps_foldInbox items _).messages _ here
    · exact ih rest change mem

end FediThreads

end Fetchit.Chat
