import Fetchit.Proto.Identity

/-! The transit envelope routed by the relays. -/
namespace Fetchit.Proto.Envelope
open Lib Identity

abbrev GroupId := Vector UInt8 32

inductive EnvelopeKind where
  | dm
  | groupChat
  | adminEvent
  | deliveryReceipt
  | privateGroupChat
  | x0xdGroupMetadataEvent
  | pairRecordPush
  | reserved7
  | publicPost
  | unknown (tag : UInt8)
  deriving DecidableEq

structure TransitEnvelope where
  version : UInt16
  kind : EnvelopeKind
  groupId : Option GroupId
  tenantId : Option Bytes
  senderAgentId : AgentId
  senderMachineId : Bytes
  timestampMs : UInt64
  epoch : Nat
  ciphertext : Bytes
  nonce : Bytes
  kemCiphertext : Bytes
  senderSignature : Bytes
  deriving DecidableEq

def TransitEnvelope.unsigned (envelope : TransitEnvelope) : TransitEnvelope :=
  { envelope with senderSignature := [] }

end Fetchit.Proto.Envelope
