import Fetchit.Chat.Crypto

/-! The envelopes that transports carry, and the router that tries transports in order. -/
namespace Fetchit.Chat
open Lib Proto.Envelope

structure SendReceipt where
  acceptedAtMs : Nat
  messageId : Option String
  transportName : String
  deriving DecidableEq

inductive OutboundKind where
  | dm
  | group (groupId : String)
  deriving DecidableEq

structure OutboundEnvelope where
  kind : OutboundKind
  fromMachineId : Option Bytes
  payload : Bytes
  timestampMs : UInt64
  transit : Option TransitEnvelope
  deriving DecidableEq

/-- The stored copy that a delivery came from: the relay slot and its entry there. -/
structure DeliveryAck where
  slot : Nat
  transitSeq : Nat
  deriving DecidableEq

structure InboundEnvelope where
  kind : OutboundKind
  sender : String
  payload : Bytes
  timestampMs : UInt64
  transportName : String
  transit : Option TransitEnvelope
  ack : Option DeliveryAck
  deriving DecidableEq

end Fetchit.Chat
