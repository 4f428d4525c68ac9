import Fetchit.Chat.Types

/-! The bubbles of the outbox: one copy of an outbound message each, with what the sender knows
about it and the rule by which it is sent again. -/
namespace Fetchit.Chat.SendState

def reachedRelay : SendState → Bool
  | .sent | .delivered => true
  | .failed | .queued => false

def isTerminal : SendState → Bool
  | .delivered | .failed => true
  | .queued | .sent => false

end Fetchit.Chat.SendState

namespace Fetchit.Outbox
open Lib Chat

def priorMessageIdCap : Nat := 8

def attachmentBubbleCap : Nat := 16

/-- The copy of a private-group message for one member; its sealed envelope is sent again as it
is. -/
structure GroupOutbound where
  groupId : String
  envelope : Bytes
  clientMessageId : String
  deriving DecidableEq

structure OutboxBubble where
  id : String
  peer : String
  body : String
  status : SendState
  messageId : Option String
  enqueuedAtMs : Nat
  stateChangedAtMs : Nat
  priorMessageIds : List String
  lastError : Option String
  group : Option GroupOutbound
  attachment : Option Attachment
  replyToMessageId : Option String
  attachmentDropped : Bool
  deriving DecidableEq

/-- Why a send attempt failed, as far as the outbox tells failures apart. -/
inductive SendError where
  | denied (agentIdHex : String)
  | deniedActor (actorUrl : String)
  | sealedRequired (caller : String)
  | other (text : String)
  deriving DecidableEq

def SendError.text : SendError → String
  | .denied agentIdHex => s!"recipient {agentIdHex} is on the community denylist — send refused"
  | .deniedActor actorUrl => s!"actor {actorUrl} is on the community denylist — publish refused"
  | .sealedRequired caller =>
    s!"sealed envelope required: {caller} did not supply a prebuilt sealed envelope"
  | .other text => text

structure SendFailure where
  reason : String
  terminal : Bool

/-- Only a refusal that every later attempt would meet again is terminal. -/
def SendFailure.classify (error : SendError) : SendFailure where
  reason := error.text
  terminal := match error with
    | .denied _ | .deniedActor _ | .sealedRequired _ => true
    | .other _ => false

namespace OutboxBubble

def queued (id peer body : String) (now : Nat) : OutboxBubble where
  id := id
  peer := peer
  body := body
  status := .queued
  messageId := none
  enqueuedAtMs := now
  stateChangedAtMs := now
  priorMessageIds := []
  lastError := none
  group := none
  attachment := none
  replyToMessageId := none
  attachmentDropped := false

def withGroup (bubble : OutboxBubble) (group : GroupOutbound) : OutboxBubble :=
  { bubble with group := some group }

def withDmPayload (bubble : OutboxBubble) (attachment : Option Attachment)
    (replyToMessageId : Option String) : OutboxBubble :=
  { bubble with attachment := attachment, replyToMessageId := replyToMessageId }

def releaseAttachment (lastHolder : Bool) (bubble : OutboxBubble) : OutboxBubble :=
  { bubble with
    attachment := none
    attachmentDropped :=
      if bubble.attachment.isSome && lastHolder then true else bubble.attachmentDropped }

def matchesReceipt (messageId : String) (bubble : OutboxBubble) : Bool :=
  bubble.messageId == some messageId || bubble.priorMessageIds.any (· == messageId)

def isRetryable (bubble : OutboxBubble) : Bool :=
  match bubble.status with
  | .queued => true
  | .sent => bubble.group.isNone
  | .delivered | .failed => false

def isQueuedRetryable (bubble : OutboxBubble) : Bool :=
  bubble.isRetryable && bubble.status == .queued

def delivered (receivedAtMs : Nat) (bubble : OutboxBubble) : OutboxBubble :=
  releaseAttachment false
    { bubble with status := .delivered, stateChangedAtMs := receivedAtMs }

/-- A relay has accepted the message, under a new message id if it names one. The id that it
supersedes is kept, the oldest of eight giving way. -/
def accepted (messageId : Option String) (now : Nat) (bubble : OutboxBubble) : OutboxBubble :=
  let kept := bubble.priorMessageIds
  { bubble with
    messageId := messageId.or bubble.messageId
    priorMessageIds :=
      match messageId, bubble.messageId with
      | some _, some old =>
        if kept.contains old then kept
        else (if kept.length ≥ priorMessageIdCap then kept.drop 1 else kept) ++ [old]
      | _, _ => kept
    stateChangedAtMs := if bubble.status ≠ .sent then now else bubble.stateChangedAtMs
    status := .sent
    lastError := none }

/-- A failure is final only while no relay has the message. -/
def refused (failure : SendFailure) (now : Nat) (bubble : OutboxBubble) : OutboxBubble :=
  let bubble := { bubble with lastError := some failure.reason }
  if failure.terminal && !bubble.status.reachedRelay then
    releaseAttachment true { bubble with status := .failed, stateChangedAtMs := now }
  else bubble

/-- The result of a send attempt: the message id that a relay accepted it under, if it named one,
or the error. -/
def attempted (result : Except SendError (Option String)) (now : Nat) (bubble : OutboxBubble) :
    OutboxBubble :=
  match result with
  | .ok messageId => bubble.accepted messageId now
  | .error error => bubble.refused (.classify error) now

/-- A bubble without a change time was written by an older version, whose failures meant that the
message is still to be sent. -/
def migrateLegacy (bubble : OutboxBubble) : OutboxBubble :=
  if bubble.stateChangedAtMs ≠ 0 then bubble
  else { bubble with
    status := match bubble.status with
      | .failed => .queued
      | .queued => if bubble.messageId.isSome then .sent else .queued
      | other => other
    stateChangedAtMs := bubble.enqueuedAtMs }

/-! The operations keep the id. -/

section
variable (bubble : OutboxBubble)

@[simp] theorem id_delivered (receivedAtMs : Nat) :
    (bubble.delivered receivedAtMs).id = bubble.id := rfl

@[simp] theorem id_attempted (result : Except SendError (Option String))
    (now : Nat) : (bubble.attempted result now).id = bubble.id := by
  unfold attempted
  split
  · rfl
  · unfold refused
    dsimp only
    split <;> rfl

@[simp] theorem id_migrateLegacy : bubble.migrateLegacy.id = bubble.id := by
  unfold migrateLegacy
  split <;> rfl

end

end OutboxBubble

end Fetchit.Outbox
