import Mathlib.Data.List.AList
import Fetchit.Lib.Base64
import Fetchit.Lib.Outcome
import Fetchit.Proto.Envelope

/-! Conversation state and the operations on it that touch no storage. The clock is an
argument of every operation that reads it. -/
namespace Fetchit.Chat
open Lib Lib.Outcome

abbrev Map (K V : Type) := AList (fun _ : K => V)

/-- Maps are compared by their entries, which reduces where Mathlib's instance does not. -/
instance {K V : Type} [DecidableEq K] [DecidableEq V] : DecidableEq (Map K V) :=
  fun first second => decidable_of_iff (first.entries = second.entries) AList.ext_iff.symm

def defaultAutoRekeyIntervalMs : Nat := 7 * 24 * 60 * 60 * 1000

def priorKeyWindowMs : Nat := 60 * 1000

def aeadKeyLen : Nat := 32

def historyCap : Nat := 1000

def nonceWindowSize : Nat := 64

inductive ChatError where
  | invalid (reason : String)
  | io (reason : String)
  | messageTransport (reason : String)
  | sealedRequired (caller : String)
  | noTransportAvailable
  deriving DecidableEq

inductive Role where
  | admin
  | member
  deriving DecidableEq

inductive TrustState where
  | pending
  | confirmed
  deriving DecidableEq

inductive MemberDeviceStatus where
  | active
  | revoked
  deriving DecidableEq

structure MemberDevice where
  agentIdHex : String
  kemPublicKeyB64 : String
  agentPublicKeyB64 : Option String
  addedAtEpoch : Nat
  status : MemberDeviceStatus
  deriving DecidableEq

structure Member where
  userIdHex : Option String
  devices : List MemberDevice
  joinedAtEpoch : Nat
  deriving DecidableEq

structure PriorKey where
  epoch : Nat
  keyB64 : String
  expiresAtMs : Nat
  deriving DecidableEq

structure Attachment where
  mime : String
  width : Nat
  height : Nat
  bytesB64 : String
  deriving DecidableEq

inductive SendState where
  | failed
  | queued
  | sent
  | delivered
  deriving DecidableEq

structure HistoryEntry where
  senderAgentIdHex : String
  senderName : Option String
  body : String
  tsMs : Nat
  messageId : String
  attachment : Option Attachment
  deliveredAtMs : Option Nat
  sendState : Option SendState
  stateChangedAtMs : Nat
  deriving DecidableEq

structure SenderSeqState where
  highWater : Nat
  missing : Map Nat Nat
  deriving DecidableEq

abbrev Nonce := Vector UInt8 12

structure Conversation where
  groupIdHex : String
  name : Option String
  members : List Member
  currentEpoch : Nat
  currentKeyB64 : String
  priorKeys : List PriorKey
  ownRole : Role
  createdAtMs : Nat
  lastRekeyAtMs : Nat
  autoRekeyIntervalMs : Nat
  trustState : TrustState
  seenNonces : Map String (List Nonce)
  history : List HistoryEntry
  ownGroupSendSeq : Nat
  groupSeqWindows : Map String SenderSeqState
  wedgeLastProgressMs : Nat
  wedgeLastInboundMs : Nat
  wedgeProgressEpoch : Nat
  wedgeMaxStaleEpoch : Nat
  readMs : Nat
  deriving DecidableEq

structure WelcomePayload where
  groupIdHex : String
  currentKeyB64 : String
  epoch : Nat
  members : List Member
  name : Option String
  deriving DecidableEq

structure MessagePayload where
  senderName : Option String
  body : String
  tsMs : Nat
  messageId : Option String
  replyToMessageId : Option String
  attachment : Option Attachment
  advertisedRelays : Option (List String)
  hintEpochMs : Option Nat
  deriving DecidableEq

structure DeliveryReceiptPayload where
  messageId : String
  receivedAtMs : Nat
  deriving DecidableEq

def allDevices (members : List Member) : List MemberDevice := members.flatMap (·.devices)

def hasDevice (members : List Member) (agentIdHex : String) : Bool :=
  (allDevices members).any fun device => device.agentIdHex == agentIdHex

namespace Conversation

def fromWelcome (now : Nat) (payload : WelcomePayload) (trustState : TrustState) :
    Conversation where
  groupIdHex := payload.groupIdHex
  name := payload.name
  members := payload.members
  currentEpoch := payload.epoch
  currentKeyB64 := payload.currentKeyB64
  priorKeys := []
  ownRole := .member
  createdAtMs := now
  lastRekeyAtMs := now
  autoRekeyIntervalMs := defaultAutoRekeyIntervalMs
  trustState := trustState
  seenNonces := ∅
  history := []
  ownGroupSendSeq := 0
  groupSeqWindows := ∅
  wedgeLastProgressMs := 0
  wedgeLastInboundMs := 0
  wedgeProgressEpoch := 0
  wedgeMaxStaleEpoch := 0
  readMs := 0

def decodeKey (base64Error : String → String) (label text : String) :
    Except ChatError Bytes := do
  let bytes ← okOr (Base64.decode text) (.invalid s!"{label} b64: {base64Error text}")
  require (bytes.length == aeadKeyLen) (.invalid s!"{label} length")
  .ok bytes

def currentKey (base64Error : String → String) (conv : Conversation) : Except ChatError Bytes :=
  decodeKey base64Error "current_key" conv.currentKeyB64

def keyForEpoch (base64Error : String → String) (now : Nat) (conv : Conversation)
    (epoch : Nat) : Except ChatError (Option Bytes) :=
  if epoch = conv.currentEpoch then (conv.currentKey base64Error).map some
  else match conv.priorKeys.find? fun prior => prior.epoch == epoch && now < prior.expiresAtMs with
    | none => .ok none
    | some prior => (decodeKey base64Error "prior key" prior.keyB64).map some

def sweepPriorKeys (now : Nat) (conv : Conversation) : Conversation :=
  { conv with priorKeys := conv.priorKeys.filter fun prior => now < prior.expiresAtMs }

def pushHistory (conv : Conversation) (entry : HistoryEntry) : Conversation :=
  let kept := if conv.history.length ≥ historyCap then conv.history.drop 1 else conv.history
  { conv with history := kept ++ [entry] }

end Conversation

def markDelivered (receivedAtMs : Nat) (entry : HistoryEntry) : HistoryEntry :=
  { entry with
    deliveredAtMs := some receivedAtMs
    sendState := some .delivered
    stateChangedAtMs := receivedAtMs }

/-- The newest entry of the message, seen from the end of the history; `none` when there is
none or it is already delivered. -/
def deliverNewestFirst (messageId : String) (receivedAtMs : Nat) :
    List HistoryEntry → Option (List HistoryEntry)
  | [] => none
  | entry :: older =>
    if entry.messageId = messageId then
      if entry.deliveredAtMs.isSome then none
      else some (markDelivered receivedAtMs entry :: older)
    else (deliverNewestFirst messageId receivedAtMs older).map (entry :: ·)

namespace Conversation

def applyDeliveryReceipt (conv : Conversation) (messageId : String) (receivedAtMs : Nat) :
    Bool × Conversation :=
  match deliverNewestFirst messageId receivedAtMs conv.history.reverse with
  | some newestFirst => (true, { conv with history := newestFirst.reverse })
  | none => (false, conv)

def nonceWindow (conv : Conversation) (senderAgentHex : String) : List Nonce :=
  (conv.seenNonces.lookup senderAgentHex).getD []

def pushNonce (window : List Nonce) (nonce : Nonce) : List Nonce :=
  (if window.length ≥ nonceWindowSize then window.drop 1 else window) ++ [nonce]

def checkAndRecordNonce (conv : Conversation) (senderAgentHex : String) (nonce : Nonce) :
    Bool × Conversation :=
  let window := conv.nonceWindow senderAgentHex
  if window.contains nonce then (true, conv)
  else (false, { conv with
    seenNonces := conv.seenNonces.insert senderAgentHex (pushNonce window nonce) })

theorem mem_nonceWindow_checkAndRecordNonce (conv : Conversation) (senderAgentHex : String)
    (nonce : Nonce) :
    nonce ∈ (conv.checkAndRecordNonce senderAgentHex nonce).2.nonceWindow senderAgentHex := by
  unfold checkAndRecordNonce
  dsimp only
  split
  · rename_i seen
    exact List.contains_iff_mem.mp seen
  · simp [nonceWindow, pushNonce]

end Conversation

end Fetchit.Chat
