import Fetchit.Chat.Cards
import Fetchit.Lib.Run

/-! Whose keys a stored contact card carries. A pair record and a profile record prove that their
signing key belongs to the agent id; a share card proves only that its signing key signed it. -/
namespace Fetchit.Chat
open Lib Lib.Outcome Lib.Run Proto.Identity Proto.PairRecord Fedi.Json StoredContactCard

inductive ContactImport where
  | share (uri : String) (fault : Option ChatError)
  | member (agentIdHex : String) (reply : Except PairError PairRecordV1)
      (fault : Option ChatError) (watermarkFault : Bool)
  | pairUri (agentIdHex : String) (relays : List (Except String (Except PairError PairRecordV1)))
      (fault : Option ChatError)
  | profile (agentId : String) (reply : Except PairError ProfileIndexRecord)
      (fault : Option ChatError)

section
variable (formats : CardFormats)

def importStep (store : CardStore) : ContactImport → CardStore
  | .share uri fault => (importShareUri formats store uri fault).2
  | .member agentIdHex reply fault watermarkFault =>
    (resolveAndPersistMemberCard formats store agentIdHex reply fault watermarkFault).2
  | .pairUri agentIdHex relays fault => (importPairUri formats store agentIdHex relays fault).2
  | .profile agentId reply fault => (pairAccept formats store agentId reply fault).2

def offeredCard : ContactImport → Option StoredContactCard
  | .share uri _ => (fromShareUri formats uri).toOption
  | .member agentIdHex reply _ _ =>
    (fetchPairRecordById formats agentIdHex reply).toOption.map cardFromPairRecord
  | .pairUri agentIdHex relays _ =>
    (firstPairRecord formats agentIdHex relays "").toOption.map cardFromPairRecord
  | .profile agentId reply _ =>
    (fetchIndexRecordById formats agentId reply).toOption.map recordIntoStoredContact

def KeyText (text : String) (key : Bytes) : Prop :=
  Base64.decode text = some key ∨ formats.base64Url text = .ok key

def Derives (key : Bytes) (agentIdHex : String) : Prop :=
  Text.hexDecode agentIdHex = some (deriveAgentId formats.verifier.crypto key).toList

/-- The messages in which a key names a KEM key as its own: a card, a pair record, a profile. -/
inductive NamesKem (key : Bytes) (kemText : String) : Bytes → Prop
  | card (canonical : Bytes) (agentPkB64 : String) (message : Bytes)
      (own : Base64.decode agentPkB64 = some key)
      (body : cardSignBytes formats ⟨canonical, cardVersion, kemText, agentPkB64⟩ = .ok message) :
      NamesKem key kemText message
  | pairRecord (agentIdHex : String) (kem : Bytes) (relays : List String) (issuedAtMs : Nat)
      (message : Bytes) (decoded : Base64.decode kemText = some kem)
      (body : pairSigningInput formats.verifier agentIdHex key kem relays issuedAtMs =
        .ok message) : NamesKem key kemText message
  | profile (record : ProfileIndexRecord) (canonical : Bytes)
      (own : formats.base64Url record.mlDsaPubkey = .ok key) (names : record.kemPubkey = kemText)
      (body : canonicalBytesSansSig formats record = .ok canonical) :
      NamesKem key kemText (utf8 signDomainProfile ++ canonical)

def Vouched (signed : Bytes → Bytes → Prop) (agentIdHex kemText text : String) : Prop :=
  ∃ key, KeyText formats text key ∧ Derives formats key agentIdHex ∧
    ∃ message, signed key message ∧ NamesKem formats key kemText message

def Bound (signed : Bytes → Bytes → Prop) (card : StoredContactCard) : Prop :=
  ∀ text, card.agentPublicKeyB64 = some text →
    Vouched formats signed card.agentIdHex card.kemPublicKeyB64 text

def OwnId (source : ContactImport) (card : StoredContactCard) : Prop :=
  match source with
  | .share _ _ => ∀ text ∈ card.agentPublicKeyB64, ∀ key ∈ Base64.decode text,
      Derives formats key card.agentIdHex
  | _ => True

end

/-- Of two cards that are merged, one without a key gives no KEM key to one with a key. -/
def Unmixed (incoming existing : StoredContactCard) : Prop :=
  (incoming.agentPublicKeyB64 = none →
    existing.agentPublicKeyB64 = none ∨ incoming.kemPublicKeyB64 = "") ∧
  (existing.agentPublicKeyB64 = none → incoming.kemPublicKeyB64 = "" →
    incoming.agentPublicKeyB64 = none ∨ existing.kemPublicKeyB64 = "")

def SoundImport (formats : CardFormats) (store : CardStore) (source : ContactImport) : Prop :=
  ∀ card, offeredCard formats source = some card → OwnId formats source card ∧
    ∀ existing, load store.contacts card.agentIdHex = .ok (some existing) →
      Unmixed card existing

section
variable {formats : CardFormats} {signed : Bytes → Bytes → Prop}

theorem checkSignature_eq_ok :
    checkSignature verifier publicKey (agentSignInput message) signature = .ok u ↔
      SignatureHolds verifier.crypto publicKey message signature :=
  verifySignature_eq_ok

theorem verifyCardExtension_spec (h : verifyCardExtension formats card key = .ok extension) :
    ∃ canonical message signature,
      (card.get "fetchit_agent_public_key_b64").bind Value.asStr =
        some extension.agentPublicKeyB64 ∧
      cardSignBytes formats ⟨canonical, cardVersion, extension.kemPublicKeyB64,
        extension.agentPublicKeyB64⟩ = .ok message ∧
      SignatureHolds formats.verifier.crypto key message signature := by
  simp only [verifyCardExtension, bind_eq_ok, okOr_eq_ok, Except.ok.injEq] at h
  obtain ⟨_, _, _, _, _, _, kem, _, agentPk, named, _, _, canonical, _, message, body, signature, _,
    _, verified, rfl⟩ := h
  exact ⟨canonical, message, signature, named, body, mlDsaVerify_eq_ok.mp verified⟩

theorem cardKeyB64_of_named
    (named : (card.get "fetchit_agent_public_key_b64").bind Value.asStr = some agentPkB64)
    (carried : cardKeyB64 card = some text) : text = agentPkB64 := by
  obtain ⟨value, found, isText⟩ := Option.bind_eq_some_iff.mp named
  rw [cardKeyB64, found, Option.some_or, Option.some_or, Option.bind_some, isText] at carried
  exact (Option.some.inj carried).symm

variable (unforgeable : ∀ key message signature,
  SignatureHolds formats.verifier.crypto key message signature → signed key message)
include unforgeable

variable {card : StoredContactCard}

theorem fromShareUri_spec (h : fromShareUri formats uri = .ok card)
    (carried : card.agentPublicKeyB64 = some text) :
    ∃ key, Base64.decode text = some key ∧
      ∃ message, signed key message ∧ NamesKem formats key card.kemPublicKeyB64 message := by
  simp only [fromShareUri, bind_eq_ok, Except.ok.injEq] at h
  obtain ⟨json, _, _, _, _, _, kem, kemOk, rfl⟩ := h
  dsimp only at carried ⊢
  rw [cardKem, carried] at kemOk
  simp only [bind_eq_ok, decodeB64, okOr_eq_ok, Except.ok.injEq] at kemOk
  obtain ⟨key, decoded, extension, verified, rfl⟩ := kemOk
  obtain ⟨canonical, message, signature, named, body, holds⟩ := verifyCardExtension_spec verified
  have same : text = extension.agentPublicKeyB64 := cardKeyB64_of_named named carried
  exact ⟨key, decoded, message, unforgeable _ _ _ holds,
    .card canonical extension.agentPublicKeyB64 message (same ▸ decoded) body⟩

theorem bound_fromShareUri (h : fromShareUri formats uri = .ok card)
    (own : OwnId formats (.share uri fault) card) : Bound formats signed card := by
  intro text carried
  obtain ⟨key, decoded, message, hasSigned, names⟩ := fromShareUri_spec unforgeable h carried
  exact ⟨key, .inl decoded, own text carried key decoded, message, hasSigned, names⟩

theorem bound_cardFromPairRecord {agentIdHex : String}
    (h : fetchPairRecordById formats agentIdHex reply = .ok record) :
    Bound formats signed (cardFromPairRecord record) := by
  simp only [fetchPairRecordById, bind_eq_ok, mapError_eq_ok, Except.ok.injEq] at h
  obtain ⟨_, _, _, verified, _, _, rfl⟩ := h
  simp only [verifyPairRecord, bind_eq_ok, decodeField, okOr_eq_ok, require_eq_ok,
    beq_iff_eq] at verified
  obtain ⟨_, _, _, _, key, keyDecoded, kem, kemDecoded, signature, _, _, derived, input, body,
    holds⟩ := verified
  intro text carried
  cases carried
  refine ⟨key, .inl keyDecoded, ?_, input, ?_, ?_⟩
  · unfold Derives cardFromPairRecord
    rw [← derived]
    exact Text.hexDecode_hexEncode _
  · exact unforgeable _ _ _ (checkSignature_eq_ok.mp holds)
  · exact .pairRecord _ kem _ _ input kemDecoded body

theorem bound_of_firstPairRecord {agentIdHex : String} :
    ∀ lastErr, firstPairRecord formats agentIdHex relays lastErr = .ok record →
      Bound formats signed (cardFromPairRecord record) := by
  induction relays with
  | nil =>
    intro lastErr h
    cases h
  | cons relay relays ih =>
    intro lastErr h
    cases relay with
    | error reason => cases h
    | ok reply =>
      rw [firstPairRecord] at h
      cases fetched : fetchPairRecordById formats agentIdHex reply with
      | ok found =>
        rw [fetched] at h
        cases h
        exact bound_cardFromPairRecord unforgeable fetched
      | error reason =>
        rw [fetched] at h
        exact ih _ h

theorem bound_recordIntoStoredContact
    (h : fetchIndexRecordById formats agentId reply = .ok record) :
    Bound formats signed (recordIntoStoredContact record) := by
  simp only [fetchIndexRecordById, bind_eq_ok, Except.ok.injEq] at h
  obtain ⟨_, _, _, _, key, verified, _, _, rfl⟩ := h
  simp only [verifyIndexRecord, bind_eq_ok, decodeUrlField, mapError_eq_ok, okOr_eq_ok,
    require_eq_ok, beq_iff_eq, Except.ok.injEq] at verified
  obtain ⟨_, _, key, keyDecoded, signature, _, _, embedded, _, _, _, derived, canonical, body, _,
    holds, rfl⟩ := verified
  intro text carried
  cases carried
  refine ⟨key, .inr keyDecoded, ?_, _, ?_, .profile _ canonical keyDecoded rfl body⟩
  · unfold Derives recordIntoStoredContact
    rw [derived]
    exact embedded
  · exact unforgeable _ _ signature (verifySignature_eq_ok.mp holds)

theorem bound_offeredCard (offers : offeredCard formats source = some card)
    (own : OwnId formats source card) :
    Bound formats signed card := by
  cases source with
  | share uri fault =>
    exact bound_fromShareUri unforgeable (toOption_eq_some.mp offers) own
  | member agentIdHex reply fault watermarkFault =>
    obtain ⟨record, fetched, rfl⟩ := Option.map_eq_some_iff.mp offers
    exact bound_cardFromPairRecord unforgeable (toOption_eq_some.mp fetched)
  | pairUri agentIdHex relays fault =>
    obtain ⟨record, fetched, rfl⟩ := Option.map_eq_some_iff.mp offers
    exact bound_of_firstPairRecord unforgeable _ (toOption_eq_some.mp fetched)
  | profile agentId reply fault =>
    obtain ⟨record, fetched, rfl⟩ := Option.map_eq_some_iff.mp offers
    exact bound_recordIntoStoredContact unforgeable (toOption_eq_some.mp fetched)

end

section
variable {formats : CardFormats} {signed : Bytes → Bytes → Prop}

theorem importStep_cases (formats : CardFormats) (store : CardStore) (source : ContactImport) :
    (importStep formats store source).contacts = store.contacts ∨
      ∃ card fault, offeredCard formats source = some card ∧
        (importStep formats store source).contacts =
          (card.saveImported store.contacts fault).2 := by
  cases source with
  | share uri fault =>
    simp only [importStep, importShareUri, offeredCard]
    cases fromShareUri formats uri with
    | error error => exact .inl rfl
    | ok card => exact .inr ⟨card, fault, rfl, rfl⟩
  | member agentIdHex reply fault watermarkFault =>
    simp only [importStep, resolveAndPersistMemberCard, offeredCard]
    cases fetchPairRecordById formats agentIdHex reply with
    | error error => exact .inl rfl
    | ok record =>
      dsimp only
      split
      · exact .inl rfl
      · refine .inr ⟨cardFromPairRecord record, fault, rfl, ?_⟩
        generalize (cardFromPairRecord record).saveImported store.contacts fault = saved
        obtain ⟨_ | _, contacts⟩ := saved <;> rfl
  | pairUri agentIdHex relays fault =>
    simp only [importStep, importPairUri, offeredCard]
    cases firstPairRecord formats agentIdHex relays "" with
    | error error => exact .inl rfl
    | ok record => exact .inr ⟨cardFromPairRecord record, fault, rfl, rfl⟩
  | profile agentId reply fault =>
    simp only [importStep, pairAccept, offeredCard]
    cases fetchIndexRecordById formats agentId reply with
    | error error => exact .inl rfl
    | ok record =>
      refine .inr ⟨recordIntoStoredContact record, fault, rfl, ?_⟩
      dsimp only
      generalize (recordIntoStoredContact record).saveImported store.contacts fault = saved
      obtain ⟨_ | _, contacts⟩ := saved <;> rfl

variable (distinct : ∀ key key' message message', signed key message → signed key' message' →
  deriveAgentId formats.verifier.crypto key = deriveAgentId formats.verifier.crypto key' →
    key = key')
include distinct

theorem Vouched.swap {agentIdHex kemText kemText' text text' : String}
    (first : Vouched formats signed agentIdHex kemText text)
    (second : Vouched formats signed agentIdHex kemText' text') :
    Vouched formats signed agentIdHex kemText text' := by
  obtain ⟨key, _, derives, message, hasSigned, names⟩ := first
  obtain ⟨key', isText, derives', message', hasSigned', _⟩ := second
  have same : key = key' := by
    apply distinct key key' message message' hasSigned hasSigned'
    apply Vector.toList_inj.mp
    rw [Derives, derives'] at derives
    exact (Option.some.inj derives).symm
  subst same
  exact ⟨key, isText, derives, message, hasSigned, names⟩

theorem Bound.merge
    (sameId : existing.agentIdHex = incoming.agentIdHex) (boundIn : Bound formats signed incoming)
    (boundEx : Bound formats signed existing) (unmixed : Unmixed incoming existing) :
    Bound formats signed (incoming.merge existing) := by
  intro text carried
  rw [kemPublicKeyB64_merge]
  rcases agentPublicKeyB64_merge incoming existing with mine | theirs
  · rw [mine] at carried
    have own := boundIn text carried
    split
    · rename_i empty
      cases stored : existing.agentPublicKeyB64 with
      | none =>
        rcases unmixed.2 stored empty with keyless | unset
        · rw [keyless] at carried
          cases carried
        · rw [unset, ← empty]
          exact own
      | some text' =>
        have other := boundEx text' stored
        rw [sameId] at other
        exact other.swap distinct own
    · exact own
  · rw [theirs] at carried
    have other := boundEx text carried
    rw [sameId] at other
    split
    · exact other
    · rename_i given
      cases offered : incoming.agentPublicKeyB64 with
      | none =>
        rcases unmixed.1 offered with keyless | empty
        · rw [keyless] at carried
          cases carried
        · exact absurd empty given
      | some text' => exact (boundIn text' offered).swap distinct other

def Filed (formats : CardFormats) (signed : Bytes → Bytes → Prop) (contacts : Contacts) : Prop :=
  ∀ agentIdHex card, load contacts agentIdHex = .ok (some card) →
    card.agentIdHex = agentIdHex ∧ Bound formats signed card

theorem Filed.saveImported
    (filed : Filed formats signed contacts) (bound : Bound formats signed card)
    (unmixed : ∀ existing, load contacts card.agentIdHex = .ok (some existing) →
      Unmixed card existing) (fault : Option ChatError) :
    Filed formats signed (card.saveImported contacts fault).2 := by
  rcases saveImported_cases card contacts fault with same | ⟨existing, found, saved⟩
  · rw [same]
    exact filed
  · rw [saved]
    intro agentIdHex stored loaded
    rw [load_insert] at loaded
    split at loaded
    · rename_i here
      cases loaded
      refine ⟨(card.agentIdHex_mergeFound existing).trans here.symm, ?_⟩
      cases existing with
      | none => exact bound
      | some existing =>
        obtain ⟨sameId, boundEx⟩ := filed _ _ found
        exact Bound.merge distinct sameId bound boundEx (unmixed existing found)
    · exact filed agentIdHex stored loaded

theorem Filed.step
    (unforgeable : ∀ key message signature,
      SignatureHolds formats.verifier.crypto key message signature → signed key message)
    (filed : Filed formats signed store.contacts) (sound : SoundImport formats store source) :
    Filed formats signed (importStep formats store source).contacts := by
  rcases importStep_cases formats store source with same | ⟨card, fault, offers, saved⟩
  · rw [same]
    exact filed
  · obtain ⟨own, unmixed⟩ := sound card offers
    rw [saved]
    exact filed.saveImported distinct (bound_offeredCard unforgeable offers own) unmixed fault

end

def shareCard (agentIdHex kem : String) (key : Option String) : Value :=
  .object ([("agent_id", .string agentIdHex), ("fetchit_kem_public_key_b64", .string kem)] ++
    match key with
    | none => []
    | some text => [("fetchit_card_version", .integer 1),
        ("fetchit_agent_public_key_b64", .string text),
        ("fetchit_card_signature_b64", .string text)])

def signedCards : List (Bytes × Bytes) :=
  [([1], agentSignInput (utf8 signDomainCard ++ utf8 "K")),
    ([2], agentSignInput (utf8 signDomainCard ++ utf8 "E"))]

def firstAgent : String := hexId (deriveAgentId (idealCrypto []) [1])

def cardFormats : CardFormats where
  verifier := ⟨idealCrypto signedCards, fun _ => none, id⟩
  base64Url text := okOr (Base64.decode text) text
  hexError := id
  inflate _ bytes := .ok bytes
  parseJson bytes :=
    match bytes with
    | [1] => .ok (shareCard firstAgent "K" (some "AQ=="))
    | [3] => .ok (shareCard firstAgent "E" (some "Ag=="))
    | _ => .ok (shareCard firstAgent "E" none)
  parseHints _ := none
  parseRelays _ := .ok []
  canonicalJson _ := .ok []
  postcard body := .ok (utf8 body.kemPublicKeyB64)
  jcs record := .ok (utf8 record.kemPubkey)

def HasSigned (key message : Bytes) : Prop := (key, agentSignInput message) ∈ signedCards

def contactCard (kem key : String) : StoredContactCard :=
  ⟨firstAgent, "", kem, some key, none, none, none⟩

theorem hasSigned_cases (h : HasSigned key message) :
    key = [1] ∧ message = utf8 signDomainCard ++ utf8 "K" ∨
      key = [2] ∧ message = utf8 signDomainCard ++ utf8 "E" := by
  simp only [HasSigned, signedCards, List.mem_cons, Prod.mk.injEq, List.not_mem_nil, or_false] at h
  rcases h with ⟨same, framed⟩ | ⟨same, framed⟩
  · exact .inl ⟨same, agentSignInput_injective framed⟩
  · exact .inr ⟨same, agentSignInput_injective framed⟩

theorem hasSigned_of_holds (key message signature : Bytes)
    (h : SignatureHolds cardFormats.verifier.crypto key message signature) :
    HasSigned key message :=
  (idealCrypto_holds_iff.mp h).2

theorem signers_distinct (key key' message message' : Bytes) (first : HasSigned key message)
    (second : HasSigned key' message')
    (h : deriveAgentId cardFormats.verifier.crypto key =
      deriveAgentId cardFormats.verifier.crypto key') : key = key' := by
  rcases hasSigned_cases first with ⟨rfl, _⟩ | ⟨rfl, _⟩ <;>
    rcases hasSigned_cases second with ⟨rfl, _⟩ | ⟨rfl, _⟩
  · rfl
  · revert h
    decide +kernel
  · revert h
    decide +kernel
  · rfl

theorem own_card_offered : offeredCard cardFormats (.share "x0x://agent/AQ==" none) =
    some (contactCard "K" "AQ==") := by
  decide +kernel

theorem own_card_derives : Derives cardFormats [1] firstAgent := by
  exact Text.hexDecode_hexEncode _

theorem own_card_sound (store : CardStore) :
    SoundImport cardFormats store (.share "x0x://agent/AQ==" none) := by
  intro card offers
  rw [own_card_offered] at offers
  cases offers
  constructor
  · intro text carried key decoded
    cases carried
    have same : key = [1] := by
      exact (Option.some.inj decoded).symm
    rw [same]
    exact own_card_derives
  · intro existing loaded
    exact ⟨nofun, fun _ empty => absurd empty (by decide)⟩

theorem keyless_card_sound : SoundImport cardFormats .empty (.share "x0x://agent/BA==" none) := by
  intro card offers
  have offered : offeredCard cardFormats (.share "x0x://agent/BA==" none) =
      some ⟨firstAgent, "", "E", none, none, none, none⟩ := by
    decide +kernel
  rw [offered] at offers
  cases offers
  exact ⟨nofun, fun existing loaded => by cases loaded⟩

theorem not_namesKem_of_hasSigned (h : HasSigned [1] message) :
    ¬NamesKem cardFormats [1] "E" message := by
  have message_eq : message = utf8 signDomainCard ++ utf8 "K" := by
    rcases hasSigned_cases h with ⟨_, same⟩ | ⟨impossible, _⟩
    · exact same
    · cases impossible
  intro names
  cases names with
  | card canonical agentPkB64 message own body =>
    cases body
    have differ : utf8 "E" ≠ utf8 "K" := by decide +kernel
    exact differ (List.append_cancel_left message_eq)
  | pairRecord agentIdHex kem relays issuedAtMs message decoded body =>
    simp only [pairSigningInput, bind_eq_ok, validateRelays] at body
    obtain ⟨_, _, _, ⟨_, nonempty, _, _, valid⟩, _⟩ := body
    cases relays with
    | nil => cases nonempty
    | cons relay rest =>
      simp [validateRelay, bind_eq_ok, cardFormats] at valid
  | profile record canonical own names body =>
    have heads := congrArg (List.take 8) message_eq
    rw [List.take_append_of_le_length (by decide +kernel)] at heads
    exact absurd heads (by decide +kernel)

end Fetchit.Chat
