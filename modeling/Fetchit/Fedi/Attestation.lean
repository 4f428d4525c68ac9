import Fetchit.Lib.Framing
import Fetchit.Lib.Outcome
import Fetchit.Proto.Identity
import Fetchit.Fedi.Json

/-! ML-DSA attestations of an actor. The signing input is a domain separator and
length-prefixed fields, so a signature determines the attested tuple; v2 adds
the profile address, the relay hint and its freshness stamp. -/
namespace Fetchit.Fedi.Attestation
open Lib Lib.Outcome Lib.Framing Proto.Identity Json

def domainSeparator : String := "fetchit-fedi-actor-attestation-v1"

def domainSeparatorV2 : String := "fetchit-fedi-actor-attestation-v2"

def maxRelayHintLen : Nat := 256

structure MlDsaAttestation where
  mlDsaPubkey : Bytes
  signature : Bytes
  deriving DecidableEq

structure ActorAttestationV2 where
  version : UInt8
  profileAddr : String
  relayHint : String
  hintEpochMs : UInt64
  mlDsaPubkey : Bytes
  signature : Bytes
  deriving DecidableEq

inductive SigningInputError where
  | fieldTooLong (len : Nat)
  | emptyHandle
  | invalidAgentIdHex (len : Nat)
  | invalidProfileAddr (len : Nat)
  | invalidRelayHint (len : Nat)
  deriving DecidableEq

def SigningInputError.display : SigningInputError → String
  | .fieldTooLong len => s!"attestation field length {len} exceeds u32::MAX"
  | .emptyHandle => "attestation handle must be non-empty"
  | .invalidAgentIdHex len =>
    s!"attestation agent_id_hex must be lowercase 64-hex (got len {len})"
  | .invalidProfileAddr len =>
    s!"attestation profile_addr must be lowercase 64-hex (got len {len})"
  | .invalidRelayHint len => s!"attestation relay_hint must be 1..=256 bytes (got {len})"

inductive AttestationVerifyError where
  | signingInput (error : SigningInputError)
  | pubkeyParse (reason : String)
  | signatureParse (reason : String)
  | verifyBackend (reason : String)
  | signatureInvalid
  | wrongVersion (got : UInt8)
  deriving DecidableEq

def AttestationVerifyError.display : AttestationVerifyError → String
  | .signingInput error => s!"attestation signing-input: {error.display}"
  | .pubkeyParse reason => s!"attestation ml_dsa_pubkey rejected: {reason}"
  | .signatureParse reason => s!"attestation signature rejected: {reason}"
  | .verifyBackend reason => s!"attestation ML-DSA verify errored: {reason}"
  | .signatureInvalid => "attestation signature does not verify under the attested key"
  | .wrongVersion got => s!"attestation version {got} where 2 expected"

def isLowercase64Hex (text : String) : Bool :=
  text.utf8ByteSize == 64 && text.toList.all Text.isLowerHexDigit

def pushLp (out field : Bytes) : Except SigningInputError Bytes :=
  match lengthPrefixed 4 field with
  | some framed => .ok (out ++ framed)
  | none => .error (.fieldTooLong field.length)

theorem pushLp_eq_ok :
    pushLp out field = .ok result ↔
      ∃ framed, lengthPrefixed 4 field = some framed ∧ out ++ framed = result := by
  unfold pushLp
  cases lengthPrefixed 4 field <;> simp

def signingInput (handle : String) (actorUrl : Url) (agentIdHex : String)
    (rsaPubkeyDer : Bytes) : Except SigningInputError Bytes := do
  require (!handle.isEmpty) .emptyHandle
  require (isLowercase64Hex agentIdHex) (.invalidAgentIdHex agentIdHex.utf8ByteSize)
  let out := utf8 domainSeparator
  let out ← pushLp out (utf8 handle)
  let out ← pushLp out (utf8 actorUrl.asStr)
  let out ← pushLp out (utf8 agentIdHex)
  pushLp out rsaPubkeyDer

variable {handle handle' agentIdHex agentIdHex' profileAddr relayHint : String}
  {der der' input : Bytes} {actorUrl actorUrl' : Url} {epoch : UInt64} {crypto : Crypto}

def signingInputV2 (handle : String) (actorUrl : Url) (agentIdHex : String)
    (rsaPubkeyDer : Bytes) (profileAddr relayHint : String) (hintEpochMs : UInt64) :
    Except SigningInputError Bytes := do
  require (!handle.isEmpty) .emptyHandle
  require (isLowercase64Hex agentIdHex) (.invalidAgentIdHex agentIdHex.utf8ByteSize)
  require (isLowercase64Hex profileAddr) (.invalidProfileAddr profileAddr.utf8ByteSize)
  require (!(relayHint.isEmpty || relayHint.utf8ByteSize > maxRelayHintLen))
    (.invalidRelayHint relayHint.utf8ByteSize)
  let out := utf8 domainSeparatorV2
  let out ← pushLp out (utf8 handle)
  let out ← pushLp out (utf8 actorUrl.asStr)
  let out ← pushLp out (utf8 agentIdHex)
  let out ← pushLp out rsaPubkeyDer
  let out ← pushLp out (utf8 profileAddr)
  let out ← pushLp out (utf8 relayHint)
  .ok (out ++ bigEndian 8 hintEpochMs.toNat)

def Framed : String × String × String × Bytes → Bytes → Prop :=
  Then TextField (Then TextField (Then TextField Field))

def FramedV2 : String × String × String × Bytes × String × String × Nat → Bytes → Prop :=
  Then TextField (Then TextField (Then TextField (Then Field (Then TextField (Then TextField
    (Fixed 8))))))

theorem decodes_framed : Decodes Framed :=
  decodes_textField.next (decodes_textField.next (decodes_textField.next decodes_field))

theorem decodes_framedV2 : Decodes FramedV2 :=
  decodes_textField.next (decodes_textField.next (decodes_textField.next (decodes_field.next
    (decodes_textField.next (decodes_textField.next (decodes_fixed 8))))))

theorem framed_of_signingInput (h : signingInput handle actorUrl agentIdHex der = .ok input) :
    ∃ fields, Framed (handle, actorUrl.asStr, agentIdHex, der) fields ∧
      input = utf8 domainSeparator ++ fields := by
  simp only [signingInput, bind_eq_ok, pushLp_eq_ok] at h
  obtain ⟨_, _, _, _, _, ⟨_, name, rfl⟩, _, ⟨_, url, rfl⟩, _, ⟨_, agent, rfl⟩, _, key, rfl⟩ := h
  exact ⟨_, Then.intro name (Then.intro url (Then.intro agent key)), by simp⟩

theorem framed_of_signingInputV2
    (h : signingInputV2 handle actorUrl agentIdHex der profileAddr relayHint epoch = .ok input) :
    ∃ fields, FramedV2 (handle, actorUrl.asStr, agentIdHex, der, profileAddr, relayHint,
      epoch.toNat) fields ∧ input = utf8 domainSeparatorV2 ++ fields := by
  simp only [signingInputV2, bind_eq_ok, pushLp_eq_ok] at h
  obtain ⟨_, _, _, _, _, _, _, _, _, ⟨_, name, rfl⟩, _, ⟨_, url, rfl⟩, _, ⟨_, agent, rfl⟩,
    _, ⟨_, key, rfl⟩, _, ⟨_, profile, rfl⟩, _, ⟨_, relay, rfl⟩, done⟩ := h
  cases done
  exact ⟨_, Then.intro name (Then.intro url (Then.intro agent (Then.intro key
    (Then.intro profile (Then.intro relay ⟨epoch.toNat_lt, rfl⟩))))), by simp⟩

theorem signingInput_injective (first : signingInput handle actorUrl agentIdHex der = .ok input)
    (second : signingInput handle' actorUrl' agentIdHex' der' = .ok input) :
    handle = handle' ∧ actorUrl.asStr = actorUrl'.asStr ∧ agentIdHex = agentIdHex' ∧
      der = der' := by
  obtain ⟨fields, framed, rfl⟩ := framed_of_signingInput first
  obtain ⟨fields', framed', same⟩ := framed_of_signingInput second
  cases List.append_cancel_left same
  simpa using decodes_framed.inj framed framed'

theorem signingInputV2_injective
    (first : signingInputV2 handle actorUrl agentIdHex der profileAddr relayHint epoch =
      .ok input)
    (second : signingInputV2 handle' actorUrl' agentIdHex' der' profileAddr' relayHint' epoch' =
      .ok input) :
    (handle = handle' ∧ actorUrl.asStr = actorUrl'.asStr ∧ agentIdHex = agentIdHex' ∧
      der = der') ∧ profileAddr = profileAddr' ∧ relayHint = relayHint' ∧ epoch = epoch' := by
  obtain ⟨fields, framed, rfl⟩ := framed_of_signingInputV2 first
  obtain ⟨fields', framed', same⟩ := framed_of_signingInputV2 second
  cases List.append_cancel_left same
  simpa [and_assoc, UInt64.toNat_inj] using decodes_framedV2.inj framed framed'

def IsAttestation (message : Bytes) : Prop :=
  ∃ rest, message = utf8 domainSeparator ++ rest ∨ message = utf8 domainSeparatorV2 ++ rest

private theorem domainSeparator_append_ne (rest rest' : Bytes) :
    utf8 domainSeparator ++ rest ≠ utf8 domainSeparatorV2 ++ rest' := by
  intro h
  have hsep := (List.append_inj h (by decide +kernel)).1
  exact absurd (utf8_injective hsep) (by decide)

theorem isAttestation_signingInput (h : signingInput handle actorUrl agentIdHex der = .ok input) :
    IsAttestation input := by
  obtain ⟨fields, _, rfl⟩ := framed_of_signingInput h
  exact ⟨fields, .inl rfl⟩

theorem isAttestation_signingInputV2
    (h : signingInputV2 handle actorUrl agentIdHex der profileAddr relayHint epoch = .ok input) :
    IsAttestation input := by
  obtain ⟨fields, _, rfl⟩ := framed_of_signingInputV2 h
  exact ⟨fields, .inr rfl⟩

theorem signingInput_ne_signingInputV2
    (first : signingInput handle actorUrl agentIdHex der = .ok input)
    (second : signingInputV2 handle' actorUrl' agentIdHex' der' profileAddr relayHint epoch =
      .ok input') : input ≠ input' := by
  obtain ⟨fields, _, rfl⟩ := framed_of_signingInput first
  obtain ⟨fields', _, rfl⟩ := framed_of_signingInputV2 second
  exact domainSeparator_append_ne _ _

def verifyInput (crypto : Crypto) (publicKey signature input : Bytes) :
    Except AttestationVerifyError Unit :=
  verifySignature crypto .pubkeyParse .signatureParse .verifyBackend .signatureInvalid publicKey
    (agentSignInput input) signature

theorem verifyInput_eq_ok :
    verifyInput crypto publicKey signature input = .ok () ↔
      SignatureHolds crypto publicKey input signature :=
  verifySignature_eq_ok

def verifyBinding (crypto : Crypto) (handle : String) (actorUrl : Url) (spkiDer : Bytes)
    (attestation : MlDsaAttestation) : Except AttestationVerifyError String := do
  let derived := hexId (deriveAgentId crypto attestation.mlDsaPubkey)
  let input ← (signingInput handle actorUrl derived spkiDer).mapError .signingInput
  verifyInput crypto attestation.mlDsaPubkey attestation.signature input
  .ok derived

theorem verifyBinding_eq_ok :
    verifyBinding crypto handle actorUrl spkiDer attestation = .ok agentId ↔
      hexId (deriveAgentId crypto attestation.mlDsaPubkey) = agentId ∧
        ∃ input, signingInput handle actorUrl agentId spkiDer = .ok input ∧
          SignatureHolds crypto attestation.mlDsaPubkey input attestation.signature := by
  unfold verifyBinding
  simp only [bind_eq_ok, mapError_eq_ok]
  constructor
  · rintro ⟨input, hinput, _, hverify, h⟩
    cases h
    exact ⟨rfl, input, hinput, verifyInput_eq_ok.mp hverify⟩
  · rintro ⟨rfl, input, hinput, hholds⟩
    exact ⟨input, hinput, (), verifyInput_eq_ok.mpr hholds, rfl⟩

def verifyBindingV2 (crypto : Crypto) (handle : String) (actorUrl : Url) (spkiDer : Bytes)
    (attestation : ActorAttestationV2) : Except AttestationVerifyError String := do
  require (attestation.version == 2) (.wrongVersion attestation.version)
  let derived := hexId (deriveAgentId crypto attestation.mlDsaPubkey)
  let input ← (signingInputV2 handle actorUrl derived spkiDer attestation.profileAddr
    attestation.relayHint attestation.hintEpochMs).mapError .signingInput
  verifyInput crypto attestation.mlDsaPubkey attestation.signature input
  .ok derived

theorem verifyBindingV2_eq_ok :
    verifyBindingV2 crypto handle actorUrl spkiDer attestation = .ok agentId ↔
      attestation.version = 2 ∧
        hexId (deriveAgentId crypto attestation.mlDsaPubkey) = agentId ∧
        ∃ input, signingInputV2 handle actorUrl agentId spkiDer attestation.profileAddr
            attestation.relayHint attestation.hintEpochMs = .ok input ∧
          SignatureHolds crypto attestation.mlDsaPubkey input attestation.signature := by
  unfold verifyBindingV2
  simp only [bind_eq_ok, mapError_eq_ok, require_eq_ok, beq_iff_eq]
  constructor
  · rintro ⟨_, hversion, input, hinput, _, hverify, h⟩
    cases h
    exact ⟨hversion, rfl, input, hinput, verifyInput_eq_ok.mp hverify⟩
  · rintro ⟨hversion, rfl, input, hinput, hholds⟩
    exact ⟨(), hversion, input, hinput, (), verifyInput_eq_ok.mpr hholds, rfl⟩

end Fetchit.Fedi.Attestation
