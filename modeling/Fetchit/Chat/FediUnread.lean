import Fetchit.Chat.FediStore

/-! The unread counts of the fediverse threads. A read mark is the newest stamp of a thread,
whether that is a send time of this device or a receive time of the bridge. -/
namespace Fetchit.Chat.FediThreads

section
variable (labels : Labels)

def unreadSince (msgs : List FediThreadMsg) (readMs : Int) : Nat :=
  min (msgs.countP fun m => !m.outbound && readMs < m.atMs) (2 ^ 32 - 1)

def readMark (threads : FediThreads) (label : String) : Int :=
  (threads.readMs.get? (canonicalThreadLabel labels label)).getD (-2 ^ 63)

def unread (threads : FediThreads) (label : String) : Nat :=
  unreadSince (threads.history labels label) (threads.readMark labels label)

def sameThread (first second : String) : Bool :=
  canonicalThreadLabel labels first == canonicalThreadLabel labels second

/-- The items of a batch that are inserted into the thread of `label`. -/
def newItems (label : String) (threads : FediThreads) :
    List FediInboxMessage → List FediInboxMessage
  | [] => []
  | item :: items =>
    let (new, next) := threads.foldItem labels item
    let rest := newItems label next items
    if new && sameThread labels (authorLabel labels item.senderActorUrl) label then item :: rest
    else rest

end

variable {labels : Labels} {label : String} {mark : Int}

def unreadAbove (labels : Labels) (threads : FediThreads) (label : String) (mark : Int) : Nat :=
  (threads.history labels label).countP fun m => !m.outbound && mark < m.atMs

theorem unreadAbove_insert (threads : FediThreads) (other : String) (msg : FediThreadMsg) :
    unreadAbove labels (threads.insert labels other msg).2 label mark =
      unreadAbove labels threads label mark +
        if (threads.insert labels other msg).1 && sameThread labels other label &&
          (!msg.outbound && mark < msg.atMs) then 1 else 0 := by
  unfold insert unreadAbove sameThread
  dsimp only
  split
  · simp
  · by_cases same : canonicalThreadLabel labels other = canonicalThreadLabel labels label
    · simp [history, same, (List.perm_insertionSort _ _).countP_eq]
    · simp [history, same, Ne.symm same]

theorem unreadAbove_foldItem (threads : FediThreads) (item : FediInboxMessage) :
    unreadAbove labels (threads.foldItem labels item).2 label mark =
      unreadAbove labels threads label mark +
        if (threads.foldItem labels item).1 &&
            sameThread labels (authorLabel labels item.senderActorUrl) label &&
          (!(received item).outbound && mark < (received item).atMs) then 1 else 0 :=
  unreadAbove_insert _ _ _

theorem unreadAbove_foldInbox (items : List FediInboxMessage) :
    ∀ threads : FediThreads, unreadAbove labels (threads.foldInbox labels items).2 label mark =
      unreadAbove labels threads label mark +
        (newItems labels label threads items).countP (mark < ·.createdMs) := by
  induction items with
  | nil => simp [foldInbox, newItems]
  | cons item items ih =>
    intro threads
    cases new : (threads.foldItem labels item).1 <;>
      cases same : sameThread labels (authorLabel labels item.senderActorUrl) label <;>
        simp [foldInbox, newItems, ih, unreadAbove_foldItem, new, same, received]
    by_cases later : mark < item.createdMs <;> simp [later]
    omega

theorem readMs_foldInbox (items : List FediInboxMessage) :
    ∀ threads : FediThreads, (threads.foldInbox labels items).2.readMs = threads.readMs := by
  induction items with
  | nil => simp [foldInbox]
  | cons item items ih => simp [foldInbox, ih, foldItem]

/-- Messages that are folded into a thread are unread when each is stamped above its mark. -/
theorem new_messages_unread (labels : Labels) (label : String) (threads : FediThreads)
    (items : List FediInboxMessage)
    (above : ∀ item ∈ newItems labels label threads items,
      threads.readMark labels label < item.createdMs)
    (few : (newItems labels label threads items).length < 2 ^ 32) :
    (newItems labels label threads items).length ≤
      unread labels (threads.foldInbox labels items).2 label := by
  have count : unreadAbove labels (threads.foldInbox labels items).2 label
      (threads.readMark labels label) = _ := unreadAbove_foldInbox items threads
  have all := List.countP_eq_length.mpr fun item mem => decide_eq_true (above item mem)
  rw [all] at count
  unfold unread unreadSince readMark
  rw [readMs_foldInbox]
  unfold unreadAbove readMark at count
  omega

theorem first_message_unread :
    1 ≤ unread exampleLabels (fresh.foldInbox exampleLabels [exampleItem]).2 "p" :=
  new_messages_unread exampleLabels "p" fresh [exampleItem] (by decide +kernel) (by decide +kernel)

/-- This device's clock is ahead of the bridge's: a message that is pulled after the thread was
opened is stamped below the mark, which is the time of an own message. -/
theorem new_message_not_unread :
    let sent := (fresh.insert exampleLabels exampleDm.target exampleDm.record).2
    let opened := (sent.markRead exampleLabels "p").2
    newItems exampleLabels "p" opened [exampleItem] = [exampleItem] ∧
      unread exampleLabels (opened.foldInbox exampleLabels [exampleItem]).2 "p" = 0 := by
  decide +kernel

end Fetchit.Chat.FediThreads
