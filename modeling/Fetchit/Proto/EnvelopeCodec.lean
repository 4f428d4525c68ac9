import Mathlib.Data.Countable.Basic
import Mathlib.Data.FinEnum
import Fetchit.Lib.Codec
import Fetchit.Chat.Crypto

/-! The wire form of an envelope. Its fields are written in their order by the codec of their
types; only the kind has a serialiser of its own, which writes a discriminator. -/
namespace Fetchit.Proto.Envelope
open Lib Identity Chat

def EnvelopeKind.discriminator : EnvelopeKind → UInt32
  | .dm => 0
  | .groupChat => 1
  | .adminEvent => 2
  | .deliveryReceipt => 3
  | .privateGroupChat => 4
  | .x0xdGroupMetadataEvent => 5
  | .pairRecordPush => 6
  | .reserved7 => 7
  | .publicPost => 8
  | .unknown tag => tag.toUInt32

/-- A discriminator that does not fit a byte is refused. -/
def EnvelopeKind.ofDiscriminator (disc : UInt32) : Option EnvelopeKind :=
  match disc.toNat with
  | 0 => some .dm
  | 1 => some .groupChat
  | 2 => some .adminEvent
  | 3 => some .deliveryReceipt
  | 4 => some .privateGroupChat
  | 5 => some .x0xdGroupMetadataEvent
  | 6 => some .pairRecordPush
  | 7 => some .reserved7
  | 8 => some .publicPost
  | n => if n < 256 then some (.unknown (UInt8.ofNat n)) else none

/-- An unknown kind carries a tag that no known kind has. -/
def EnvelopeKind.Tagged : EnvelopeKind → Prop
  | .unknown tag => 8 < tag
  | _ => True

theorem EnvelopeKind.ofDiscriminator_discriminator (kind : EnvelopeKind) :
    ofDiscriminator kind.discriminator = some kind ↔ kind.Tagged := by
  cases kind with
  | unknown tag =>
    have bound := tag.toNat_lt
    simp only [ofDiscriminator, discriminator, Tagged, UInt8.lt_iff_toNat_lt]
    split <;> simp_all
    omega
  | _ => simp [Tagged, discriminator, ofDiscriminator]

/-- The primitive values that are written for an envelope, the kind by its discriminator. -/
abbrev Fields := UInt16 × UInt32 × Option GroupId × Option Bytes × AgentId × Bytes × UInt64 ×
  UInt32 × Bytes × Bytes × Bytes × Bytes

namespace TransitEnvelope

def fields (envelope : TransitEnvelope) : Fields :=
  (envelope.version, envelope.kind.discriminator, envelope.groupId, envelope.tenantId,
    envelope.senderAgentId, envelope.senderMachineId, envelope.timestampMs,
    UInt32.ofNat envelope.epoch, envelope.ciphertext, envelope.nonce, envelope.kemCiphertext,
    envelope.senderSignature)

def ofFields : Fields → Option TransitEnvelope
  | (version, disc, groupId, tenantId, agent, machine, timestampMs, epoch, ciphertext, nonce,
      kemCiphertext, signature) =>
    (EnvelopeKind.ofDiscriminator disc).map fun kind =>
      ⟨version, kind, groupId, tenantId, agent, machine, timestampMs, epoch.toNat, ciphertext,
        nonce, kemCiphertext, signature⟩

def encode (postcard : Codec Fields) (envelope : TransitEnvelope) : Bytes :=
  postcard.encode envelope.fields

def decode (postcard : Codec Fields) (bytes : Bytes) : Option TransitEnvelope :=
  (postcard.decode bytes).bind fun read => ofFields read.1

theorem decode_encode (postcard : Codec Fields) (envelope : TransitEnvelope)
    (width : envelope.epoch < 2 ^ 32) :
    decode postcard (envelope.encode postcard) = some envelope ↔ envelope.kind.Tagged := by
  have epoch : (UInt32.ofNat envelope.epoch).toNat = envelope.epoch := by simpa using width
  have read := postcard.decode_encode envelope.fields []
  rw [List.append_nil] at read
  rw [← EnvelopeKind.ofDiscriminator_discriminator, decode, encode, read, Option.bind_some]
  simp only [fields, ofFields, epoch, Option.map_eq_some_iff]
  constructor
  · rintro ⟨kind, found, same⟩
    rw [found]
    exact congrArg (fun decoded => some decoded.kind) same
  · intro found
    exact ⟨_, found, rfl⟩

end TransitEnvelope

/-- Decoding gives an envelope back exactly when its kind carries a tag of its own, and the
signed bytes of such envelopes tell them apart by every field but the signature. -/
theorem envelope_round_trip (postcard : Codec Fields) (crypto : ChatCrypto)
    (wire : ∀ envelope, crypto.postcard envelope = .ok (envelope.encode postcard)) :
    (∀ envelope : TransitEnvelope, envelope.epoch < 2 ^ 32 →
      (TransitEnvelope.decode postcard (envelope.encode postcard) = some envelope ↔
        envelope.kind.Tagged)) ∧
    ∀ first second : TransitEnvelope, first.epoch < 2 ^ 32 → second.epoch < 2 ^ 32 →
      first.kind.Tagged → second.kind.Tagged →
      (canonicalEnvelopeBytes crypto first = canonicalEnvelopeBytes crypto second ↔
        first.unsigned = second.unsigned) := by
  refine ⟨TransitEnvelope.decode_encode postcard, ?_⟩
  intro first second width width' tagged tagged'
  constructor
  · intro same
    simp only [canonicalEnvelopeBytes, wire] at same
    have bytes := Except.ok.inj same
    have one := (TransitEnvelope.decode_encode postcard first.unsigned width).mpr tagged
    have two := (TransitEnvelope.decode_encode postcard second.unsigned width').mpr tagged'
    rw [bytes, two] at one
    exact (Option.some.inj one).symm
  · intro same
    simp only [canonicalEnvelopeBytes, same]

instance countableVector : Countable (Vector UInt8 32) :=
  Function.Injective.countable (f := Vector.toList) fun _ _ same => Vector.toList_inj.mp same

noncomputable def sampleCodec : Codec Fields := .ofCountable _

noncomputable def sampleChat : ChatCrypto :=
  ⟨idealCrypto [], fun _ => none, fun secret _ => secret, fun _ _ _ _ => none,
    fun envelope => .ok (envelope.encode sampleCodec), fun _ => .error "", fun _ => .error "",
    fun _ => .error "", id, fun _ => none⟩

def sampleEnvelope (kind : EnvelopeKind) (signature : Bytes) : TransitEnvelope :=
  ⟨3, kind, none, none, Vector.replicate 32 0, [], 0, 0, [], [], [], signature⟩

theorem new_kind_round_trip :
    TransitEnvelope.decode sampleCodec ((sampleEnvelope (.unknown 9) []).encode sampleCodec) =
      some (sampleEnvelope (.unknown 9) []) :=
  ((envelope_round_trip sampleCodec sampleChat fun _ => rfl).1 _ (by decide)).mpr
    (show (8 : UInt8) < 9 by decide)

/-- `Unknown(0)` is written as a direct message, and the signed bytes leave the signature out. -/
theorem unknown_zero_is_dm :
    TransitEnvelope.decode sampleCodec ((sampleEnvelope (.unknown 0) []).encode sampleCodec) =
        some (sampleEnvelope .dm []) ∧
      canonicalEnvelopeBytes sampleChat (sampleEnvelope (.unknown 0) []) =
        canonicalEnvelopeBytes sampleChat (sampleEnvelope .dm []) ∧
      canonicalEnvelopeBytes sampleChat (sampleEnvelope .dm [1]) =
        canonicalEnvelopeBytes sampleChat (sampleEnvelope .dm []) :=
  ⟨(TransitEnvelope.decode_encode sampleCodec (sampleEnvelope .dm []) (by decide)).mpr trivial,
    rfl, rfl⟩

end Fetchit.Proto.Envelope
