import Fetchit.Proto.PairRecord
import Fetchit.Fedi.Attestation

/-! The byte strings that are signed for the pairing records and the actor attestations. Each is
a domain separator and fields that can be read back one after another, and no separator starts
another one, so the bytes determine the kind of the record and its fields. -/
namespace Fetchit.Fedi.SigningInputs
open Lib Lib.Outcome Lib.Framing Proto.Identity Proto.PairRecord

/-- The fields that the five signing inputs take; an actor URL is its text. -/
inductive Fields where
  | pair (agentIdHex : String) (mlDsaPubkey kemPubkey : Bytes) (relays : List String)
      (issuedAtMs : Nat)
  | forwarding (agentIdHex : String) (relays : List String) (issuedAtMs : Nat)
  | pairV4 (userIdHex : String) (userMlDsaPubkey : Bytes) (revision issuedAtMs : Nat)
      (devices : List DeviceSigningView)
  | attestation (handle actorUrl agentIdHex : String) (rsaPubkeyDer : Bytes)
  | attestationV2 (handle actorUrl agentIdHex : String) (rsaPubkeyDer : Bytes)
      (profileAddr relayHint : String) (hintEpochMs : UInt64)

def Input (verifier : Verifier) (input : Bytes) : Fields → Prop
  | .pair agentIdHex mlDsaPubkey kemPubkey relays issuedAtMs => issuedAtMs < 256 ^ 8 ∧
      pairSigningInput verifier agentIdHex mlDsaPubkey kemPubkey relays issuedAtMs = .ok input
  | .forwarding agentIdHex relays issuedAtMs => issuedAtMs < 256 ^ 8 ∧
      forwardingSigningInput verifier agentIdHex relays issuedAtMs = .ok input
  | .pairV4 userIdHex userMlDsaPubkey revision issuedAtMs devices =>
    (revision < 256 ^ 8 ∧ issuedAtMs < 256 ^ 8 ∧ ∀ device ∈ devices, device.addedAtMs < 256 ^ 8) ∧
      pairRecordV4SigningInput verifier userIdHex userMlDsaPubkey revision issuedAtMs devices =
        .ok input
  | .attestation handle actorUrl agentIdHex rsaPubkeyDer => ∃ url : Json.Url, url.asStr = actorUrl ∧
      Attestation.signingInput handle url agentIdHex rsaPubkeyDer = .ok input
  | .attestationV2 handle actorUrl agentIdHex rsaPubkeyDer profileAddr relayHint hintEpochMs =>
    ∃ url : Json.Url, url.asStr = actorUrl ∧
      Attestation.signingInputV2 handle url agentIdHex rsaPubkeyDer profileAddr relayHint
        hintEpochMs = .ok input

inductive Kind where
  | pair
  | forwarding
  | pairV4
  | attestation
  | attestationV2
  deriving DecidableEq

def Fields.kind : Fields → Kind
  | .pair .. => .pair
  | .forwarding .. => .forwarding
  | .pairV4 .. => .pairV4
  | .attestation .. => .attestation
  | .attestationV2 .. => .attestationV2

def domain : Kind → String
  | .pair => pairRecordDomain
  | .forwarding => forwardingDomain
  | .pairV4 => pairRecordV4Domain
  | .attestation => Attestation.domainSeparator
  | .attestationV2 => Attestation.domainSeparatorV2

theorem kind_of_starts : ∀ kind kind', utf8 (domain kind) <+: utf8 (domain kind') →
    kind = kind' := by
  intro kind kind'
  cases kind <;> cases kind' <;> decide +kernel

def Device (device : DeviceSigningView) : Bytes → Prop :=
  Then TextField (Then Field (Then Field (Then (Counted TextField) (Then (Fixed 8)
    (Then Flag Field))))) (device.agentIdHex, device.mlDsaPubkey, device.kemPubkey,
      device.relays, device.addedAtMs, device.primary, device.cert)

def Body : Fields → Bytes → Prop
  | .pair agentIdHex mlDsaPubkey kemPubkey relays issuedAtMs =>
    Then TextField (Then Field (Then Field (Then (Counted TextField) (Fixed 8))))
      (agentIdHex, mlDsaPubkey, kemPubkey, relays, issuedAtMs)
  | .forwarding agentIdHex relays issuedAtMs =>
    Then TextField (Then (Counted TextField) (Fixed 8)) (agentIdHex, relays, issuedAtMs)
  | .pairV4 userIdHex userMlDsaPubkey revision issuedAtMs devices =>
    Then TextField (Then Field (Then (Fixed 8) (Then (Fixed 8) (Counted Device))))
      (userIdHex, userMlDsaPubkey, revision, issuedAtMs, devices)
  | .attestation handle actorUrl agentIdHex rsaPubkeyDer =>
    Attestation.Framed (handle, actorUrl, agentIdHex, rsaPubkeyDer)
  | .attestationV2 handle actorUrl agentIdHex rsaPubkeyDer profileAddr relayHint hintEpochMs =>
    Attestation.FramedV2 (handle, actorUrl, agentIdHex, rsaPubkeyDer, profileAddr, relayHint,
      hintEpochMs.toNat)

theorem decodes_device : Decodes Device := by
  constructor
  intro first second bytes bytes' rest rest' h h' same
  have tuple := decodes_textField.next (decodes_field.next (decodes_field.next
    (decodes_textField.counted.next ((decodes_fixed 8).next (decodes_flag.next decodes_field)))))
  obtain ⟨fields, follows⟩ := tuple.read h h' same
  cases first
  simp_all

theorem body_inj (h : Body fields bytes)
    (h' : Body fields' bytes) (same : fields.kind = fields'.kind) : fields = fields' := by
  have text := decodes_textField
  have field := decodes_field
  have time := decodes_fixed 8
  cases fields <;> cases fields' <;> cases same
  · have := (text.next (field.next (field.next (text.counted.next time)))).inj h h'
    simp_all
  · have := (text.next (text.counted.next time)).inj h h'
    simp_all
  · have := (text.next (field.next (time.next (time.next decodes_device.counted)))).inj h h'
    simp_all
  · have := Attestation.decodes_framed.inj h h'
    simp_all
  · have := Attestation.decodes_framedV2.inj h h'
    simp_all [UInt64.toNat_inj]

theorem field_of_pushLp (written : pushLp out field = .ok result) :
    ∃ bytes, Field field bytes ∧ result = out ++ bytes := by
  unfold pushLp at written
  split at written
  · rename_i bytes framed
    cases written
    exact ⟨bytes, framed, rfl⟩
  · cases written

theorem relays_of_pushRelays (written : pushRelays out relays = .ok result) :
    ∃ bytes, Counted TextField relays bytes ∧ result = out ++ bytes := by
  simp only [pushRelays, pushCount, bind_eq_ok, require_eq_ok, decide_eq_true_eq] at written
  obtain ⟨_, ⟨_, fits, counted⟩, written⟩ := written
  cases counted
  obtain ⟨bytes, texts, rfl⟩ := sequence_of_foldlM written fun _ _ _ _ => field_of_pushLp
  exact ⟨_, Then.intro ⟨fits, rfl⟩ texts, List.append_assoc _ _ _⟩

theorem device_of_pushDevice
    (fits : device.addedAtMs < 256 ^ 8) (written : pushDevice out device = .ok result) :
    ∃ bytes, Device device bytes ∧ result = out ++ bytes := by
  simp only [pushDevice, bind_eq_ok] at written
  obtain ⟨_, agent, _, mlDsa, _, kem, _, relays, cert⟩ := written
  obtain ⟨agent, hagent, rfl⟩ := field_of_pushLp agent
  obtain ⟨mlDsa, hmlDsa, rfl⟩ := field_of_pushLp mlDsa
  obtain ⟨kem, hkem, rfl⟩ := field_of_pushLp kem
  obtain ⟨relays, hrelays, rfl⟩ := relays_of_pushRelays relays
  obtain ⟨cert, hcert, rfl⟩ := field_of_pushLp cert
  exact ⟨_, Then.intro hagent (Then.intro hmlDsa (Then.intro hkem (Then.intro hrelays
    (Then.intro ⟨fits, rfl⟩ (Then.intro rfl hcert))))), by simp⟩

variable {verifier : Verifier} {input : Bytes}

theorem body_of_input (h : Input verifier input fields) :
    ∃ bytes, Body fields bytes ∧ input = utf8 (domain fields.kind) ++ bytes := by
  cases fields with
  | pair agentIdHex mlDsaPubkey kemPubkey relays issuedAtMs =>
    obtain ⟨fits, written⟩ := h
    simp only [pairSigningInput, bind_eq_ok] at written
    obtain ⟨_, _, _, _, _, agent, _, mlDsa, _, kem, _, relays, done⟩ := written
    obtain ⟨agent, hagent, rfl⟩ := field_of_pushLp agent
    obtain ⟨mlDsa, hmlDsa, rfl⟩ := field_of_pushLp mlDsa
    obtain ⟨kem, hkem, rfl⟩ := field_of_pushLp kem
    obtain ⟨relays, hrelays, rfl⟩ := relays_of_pushRelays relays
    cases done
    exact ⟨_, Then.intro hagent (Then.intro hmlDsa (Then.intro hkem (Then.intro hrelays
      ⟨fits, rfl⟩))), by simp [domain, Fields.kind]⟩
  | forwarding agentIdHex relays issuedAtMs =>
    obtain ⟨fits, written⟩ := h
    simp only [forwardingSigningInput, bind_eq_ok] at written
    obtain ⟨_, _, _, _, _, agent, _, relays, done⟩ := written
    obtain ⟨agent, hagent, rfl⟩ := field_of_pushLp agent
    obtain ⟨relays, hrelays, rfl⟩ := relays_of_pushRelays relays
    cases done
    exact ⟨_, Then.intro hagent (Then.intro hrelays ⟨fits, rfl⟩), by simp [domain, Fields.kind]⟩
  | pairV4 userIdHex userMlDsaPubkey revision issuedAtMs devices =>
    obtain ⟨⟨fits, fits', each⟩, written⟩ := h
    simp only [pairRecordV4SigningInput, pushCount, bind_eq_ok, require_eq_ok,
      decide_eq_true_eq] at written
    obtain ⟨_, _, _, _, _, user, _, mlDsa, _, ⟨_, few, counted⟩, listed⟩ := written
    cases counted
    obtain ⟨user, huser, rfl⟩ := field_of_pushLp user
    obtain ⟨mlDsa, hmlDsa, rfl⟩ := field_of_pushLp mlDsa
    obtain ⟨listed, hlisted, rfl⟩ :=
      sequence_of_foldlM listed fun device mem _ _ => device_of_pushDevice (each device mem)
    exact ⟨_, Then.intro huser (Then.intro hmlDsa (Then.intro ⟨fits, rfl⟩ (Then.intro ⟨fits', rfl⟩
      (Then.intro ⟨few, rfl⟩ hlisted)))), by simp [domain, Fields.kind]⟩
  | attestation handle actorUrl agentIdHex rsaPubkeyDer =>
    obtain ⟨url, rfl, written⟩ := h
    exact Attestation.framed_of_signingInput written
  | attestationV2 handle actorUrl agentIdHex rsaPubkeyDer profileAddr relayHint hintEpochMs =>
    obtain ⟨url, rfl, written⟩ := h
    exact Attestation.framed_of_signingInputV2 written

theorem fields_of_input (h : Input verifier input fields) (h' : Input verifier input fields') :
    fields = fields' := by
  obtain ⟨bytes, body, rfl⟩ := body_of_input h
  obtain ⟨bytes', body', same⟩ := body_of_input h'
  have kinds : fields.kind = fields'.kind := by
    obtain front | front := List.prefix_or_prefix_of_prefix (List.prefix_append _ bytes)
      (same ▸ List.prefix_append _ bytes')
    · exact kind_of_starts _ _ front
    · exact (kind_of_starts _ _ front).symm
  rw [kinds] at same
  cases List.append_cancel_left same
  exact body_inj body body' kinds

/-- No separator starts with the tag of the framing. -/
theorem input_ne_agentSignInput (h : Input verifier input fields) (message : Bytes) :
    input ≠ agentSignInput message := by
  obtain ⟨bytes, _, rfl⟩ := body_of_input h
  intro same
  have letter : ∀ kind, (utf8 (domain kind)).head? = some 102 := by
    intro kind
    cases kind <;> decide +kernel
  have tag := congrArg List.head? same
  rw [List.head?_append, letter] at tag
  exact absurd tag (by decide : some (102 : UInt8) ≠ some agentSignNamespaceTag)

/-! The records whose signatures are checked over these bytes. -/

/-- What the verifiers take. A forwarding record comes with the key that is expected, an
attestation with the handle, the address and the key that it attests. -/
inductive Record where
  | pair (record : PairRecordV1)
  | forwarding (record : ForwardingRecordV1) (expectedPubkey : Bytes)
  | pairV4 (record : PairRecordV4)
  | attestation (handle : String) (actorUrl : Json.Url) (spkiDer : Bytes)
      (attestation : Attestation.MlDsaAttestation)
  | attestationV2 (handle : String) (actorUrl : Json.Url) (spkiDer : Bytes)
      (attestation : Attestation.ActorAttestationV2)

/-- The record verifies, with this signature and these signed fields. -/
def Verifies (verifier : Verifier) (signature : Bytes) (fields : Fields) : Record → Prop
  | .pair record => verifyPairRecord verifier record = .ok () ∧
      Base64.decode record.sigB64 = some signature ∧ record.issuedAtMs < 256 ^ 8 ∧
      ∃ mlDsaPubkey kemPubkey, Base64.decode record.mlDsaPubkeyB64 = some mlDsaPubkey ∧
        Base64.decode record.kemPubkeyB64 = some kemPubkey ∧
        fields = .pair record.agentIdHex mlDsaPubkey kemPubkey record.advertisedRelays
          record.issuedAtMs
  | .forwarding record expectedPubkey =>
    verifyForwardingRecord verifier record expectedPubkey = .ok () ∧
      Base64.decode record.sigB64 = some signature ∧ record.issuedAtMs < 256 ^ 8 ∧
      fields = .forwarding record.agentIdHex record.movedToRelays record.issuedAtMs
  | .pairV4 record => verifyPairRecordV4 verifier record = .ok () ∧
      Base64.decode record.userSignatureB64 = some signature ∧
      ∃ userPubkey devices, Base64.decode record.userMlDsaPubkeyB64 = some userPubkey ∧
        record.devices.mapM (deviceView verifier) = .ok devices ∧
        (record.revision < 256 ^ 8 ∧ record.issuedAtMs < 256 ^ 8 ∧
          ∀ device ∈ devices, device.addedAtMs < 256 ^ 8) ∧
        fields = .pairV4 record.userIdHex userPubkey record.revision record.issuedAtMs devices
  | .attestation handle actorUrl spkiDer attestation => attestation.signature = signature ∧
      ∃ agentIdHex, Attestation.verifyBinding verifier.crypto handle actorUrl spkiDer attestation =
        .ok agentIdHex ∧ fields = .attestation handle actorUrl.asStr agentIdHex spkiDer
  | .attestationV2 handle actorUrl spkiDer attestation => attestation.signature = signature ∧
      ∃ agentIdHex,
        Attestation.verifyBindingV2 verifier.crypto handle actorUrl spkiDer attestation =
          .ok agentIdHex ∧
        fields = .attestationV2 handle actorUrl.asStr agentIdHex spkiDer attestation.profileAddr
          attestation.relayHint attestation.hintEpochMs

/-- A signature verifies for one message only. -/
def SignsOnce (crypto : Crypto) : Prop :=
  ∀ signature key key' message message', crypto.verify key message signature = .ok true →
    crypto.verify key' message' signature = .ok true → message = message'

theorem verify_of_checkSignature
    (holds : checkSignature verifier key message signature = .ok ()) :
    verifier.crypto.verify key message signature = .ok true :=
  (verifySignature_eq_ok.mp holds).2.2

/-- A record is checked over the input of its fields: the user key signs it bare, the agent key
framed. -/
theorem input_of_verifies {record : Record} (h : Verifies verifier signature fields record) :
    ∃ key input, Input verifier input fields ∧
      (verifier.crypto.verify key input signature = .ok true ∨
        verifier.crypto.verify key (agentSignInput input) signature = .ok true) := by
  cases record with
  | pair record =>
    obtain ⟨verified, sig, fits, mlDsaPubkey, kemPubkey, mlDsa, kem, rfl⟩ := h
    simp only [verifyPairRecord, bind_eq_ok, decodeField, okOr_eq_ok, mlDsa, kem, sig] at verified
    obtain ⟨_, _, _, _, _, ⟨⟩, _, ⟨⟩, _, ⟨⟩, _, _, input, written, holds⟩ := verified
    exact ⟨_, input, ⟨fits, written⟩, .inr (verify_of_checkSignature holds)⟩
  | forwarding record expectedPubkey =>
    obtain ⟨verified, sig, fits, rfl⟩ := h
    simp only [verifyForwardingRecord, bind_eq_ok, decodeField, okOr_eq_ok, sig] at verified
    obtain ⟨_, _, _, _, _, ⟨⟩, _, _, input, written, holds⟩ := verified
    exact ⟨_, input, ⟨fits, written⟩, .inr (verify_of_checkSignature holds)⟩
  | pairV4 record =>
    obtain ⟨verified, sig, userPubkey, devices, user, views, fits, rfl⟩ := h
    simp only [verifyPairRecordV4, bind_eq_ok, decodeField, okOr_eq_ok, sig, user, views]
      at verified
    obtain ⟨_, _, _, _, _, ⟨⟩, _, _, _, ⟨⟩, input, written, _, ⟨⟩, holds⟩ := verified
    exact ⟨_, input, ⟨fits, written⟩, .inl (verify_of_checkSignature holds)⟩
  | attestation handle actorUrl spkiDer attestation =>
    obtain ⟨rfl, agentIdHex, verified, rfl⟩ := h
    obtain ⟨_, input, written, holds⟩ := Attestation.verifyBinding_eq_ok.mp verified
    exact ⟨_, input, ⟨actorUrl, rfl, written⟩, .inr holds.2.2⟩
  | attestationV2 handle actorUrl spkiDer attestation =>
    obtain ⟨rfl, agentIdHex, verified, rfl⟩ := h
    obtain ⟨_, _, input, written, holds⟩ := Attestation.verifyBindingV2_eq_ok.mp verified
    exact ⟨_, input, ⟨actorUrl, rfl, written⟩, .inr holds.2.2⟩

/-- The signed bytes, framed for the agent key or not, determine the record's type and its signed
fields, and framed bytes are never bare ones. So two records that one signature verifies for have
the same type and the same signed fields. -/
theorem signing_inputs_unambiguous (verifier : Verifier) (once : SignsOnce verifier.crypto) :
    (∀ fields fields' input input', Input verifier input fields →
      Input verifier input' fields' →
      (input = input' ∨ agentSignInput input = agentSignInput input' → fields = fields') ∧
        input ≠ agentSignInput input') ∧
    ∀ signature record record' fields fields', Verifies verifier signature fields record →
      Verifies verifier signature fields' record' → fields = fields' := by
  constructor
  · intro fields fields' input input' h h'
    refine ⟨fun same => ?_, input_ne_agentSignInput h input'⟩
    cases same.elim id agentSignInput_injective
    exact fields_of_input h h'
  · intro signature record record' fields fields' h h'
    obtain ⟨key, input, written, bare | framed⟩ := input_of_verifies h
    · obtain ⟨key', input', written', bare' | framed'⟩ := input_of_verifies h'
      · cases once _ _ _ _ _ bare bare'
        exact fields_of_input written written'
      · exact absurd (once _ _ _ _ _ bare framed') (input_ne_agentSignInput written input')
    · obtain ⟨key', input', written', bare' | framed'⟩ := input_of_verifies h'
      · exact absurd (once _ _ _ _ _ bare' framed) (input_ne_agentSignInput written' input)
      · cases agentSignInput_injective (once _ _ _ _ _ framed framed')
        exact fields_of_input written written'

/-! One key has signed a forwarding record. -/

def movedInput : Bytes :=
  ((forwardingSigningInput acceptAllVerifier zeroId ["https://relay"] 1).toOption).getD []

def movedVerifier : Verifier :=
  { acceptAllVerifier with
    crypto := { acceptAllVerifier.crypto with
      verify _ message signature :=
        .ok (signature == [7] && message == agentSignInput movedInput) } }

def moved : ForwardingRecordV1 := ⟨zeroId, ["https://relay"], 1, Base64.encode [7]⟩

theorem forwarding_signature_unambiguous :
    Verifies movedVerifier [7] (.forwarding zeroId ["https://relay"] 1) (.forwarding moved []) ∧
      ∀ record fields, Verifies movedVerifier [7] fields record →
        fields = .forwarding zeroId ["https://relay"] 1 := by
  have verified : Verifies movedVerifier [7] (.forwarding zeroId ["https://relay"] 1)
      (.forwarding moved []) := by
    refine ⟨?_, ?_, ?_, rfl⟩
    all_goals decide +kernel
  have once : SignsOnce movedVerifier.crypto := by
    intro signature key key' message message' holds holds'
    simp only [movedVerifier, Except.ok.injEq, Bool.and_eq_true, beq_iff_eq] at holds holds'
    exact holds.2.trans holds'.2.symm
  refine ⟨verified, ?_⟩
  intro record fields other
  exact (signing_inputs_unambiguous movedVerifier once).2 [7] record _ fields _ other verified

/-- The record version and the machine id of a pair record are not signed: a record that carries
others verifies with the same signature. -/
theorem unsigned_fields_replaced :
    let record := zeroPairRecord 1
    let other := { record with recordVersion := 9, machineId := "m" }
    other ≠ record ∧ other.sigB64 = record.sigB64 ∧
      verifyPairRecord acceptAllVerifier record = .ok () ∧
      ∀ verifier, verifyPairRecord verifier other = verifyPairRecord verifier record := by
  refine ⟨by decide, rfl, by decide +kernel, fun _ => rfl⟩

end Fetchit.Fedi.SigningInputs
