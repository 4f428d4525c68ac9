import Fetchit.Chat.Registry

/-! Inbound dispatch: an envelope is a delivery receipt, a message or a Welcome; each is
verified, decrypted and folded into the registry. -/
namespace Fetchit.Chat
open Lib Lib.Outcome Proto.Identity Proto.Envelope Registry

inductive InboundDispatch where
  | welcomed (conversation : Conversation)
  | welcomedPending (conversation : Conversation)
  | welcomeIgnored
  | rekeyed (conversation : Conversation)
  | message (groupIdHex senderAgentIdHex : String) (payload : MessagePayload)
  | receipt (groupIdHex senderAgentIdHex messageId : String) (receivedAtMs : Nat)
  | staleEpoch (groupIdHex : String) (epoch : Nat)
  | kemDecapFailed
  | aeadOpenFailed (groupIdHex : String) (epoch : Nat)
  | replayDetected (groupIdHex senderAgentIdHex : String)
  | dropped (kind sender : String)
  deriving DecidableEq

def confirmsDelivery : InboundDispatch → Bool
  | .staleEpoch _ _ => false
  | .kemDecapFailed => false
  | .dropped kind _ => kind != "no-card" && kind != "no-pubkey"
  | _ => true

/-- What one dispatch reads of the clock, and the outcome of each write it may make. -/
structure DispatchEnv where
  keyClock : Nat
  wedgeClock : Nat
  installClock : Nat
  sweepClock : Nat
  nonceFault : Option ChatError
  wedgeFault : Option ChatError
  deliveryFault : Option ChatError
  hintFault : Option ChatError
  historyFault : Option ChatError
  installFault : Option ChatError
  cardFault : Option ChatError

inductive VerifyOutcome where
  | drop (dispatch : InboundDispatch)
  | ok
  deriving DecidableEq

def verifyEnvelope (crypto : ChatCrypto) (envelope : TransitEnvelope)
    (publicKey canonical : Bytes) : Except ChatError Unit :=
  mlDsaVerify crypto.signing publicKey (agentSignInput (envelopeSignBytes canonical))
    envelope.senderSignature

def verifySender (crypto : ChatCrypto) (reg : Registry) (envelope : TransitEnvelope) :
    Except ChatError VerifyOutcome :=
  let senderAgentHex := hexId envelope.senderAgentId
  match reg.contacts.lookup senderAgentHex with
  | none => .ok (.drop (.dropped "no-card" senderAgentHex))
  | some (.error (.unreadable reason)) =>
    .error (.invalid s!"read card {reg.contactsDir}/{senderAgentHex}.json: {reason}")
  | some (.error (.malformed reason)) => .error (.invalid s!"stored card parse: {reason}")
  | some (.ok stored) =>
    match stored.agentPublicKeyB64 with
    | none => .ok (.drop (.dropped "no-pubkey" senderAgentHex))
    | some encoded => do
        let agentPub ← okOr (Base64.decode encoded)
          (.invalid s!"card agent_public_key_b64: {crypto.base64Error encoded}")
        let canonical ← canonicalEnvelopeBytes crypto envelope
        match verifyEnvelope crypto envelope agentPub canonical with
        | .ok _ => .ok .ok
        | .error _ => .ok (.drop (.dropped "bad-signature" senderAgentHex))

def openFrame (crypto : ChatCrypto) (env : DispatchEnv) (reg : Registry)
    (envelope : TransitEnvelope) (groupId : GroupId) :
    Except ChatError (InboundDispatch ⊕ Bytes) × Registry :=
  let groupIdHex := hexId groupId
  let senderHex := hexId envelope.senderAgentId
  match reg.get groupIdHex with
  | (.error error, reg) => (.error error, reg)
  | (.ok none, reg) => (.ok (.inl (.staleEpoch groupIdHex envelope.epoch)), reg)
  | (.ok (some conv), reg) =>
    match conv.keyForEpoch crypto.base64Error env.keyClock envelope.epoch with
    | .error error => (.error error, reg)
    | .ok none =>
      (.ok (.inl (.staleEpoch groupIdHex envelope.epoch)),
        reg.noteWedgeInbound groupIdHex (some envelope.epoch) env.wedgeClock env.wedgeFault)
    | .ok (some key) =>
      match parseNonce envelope.nonce with
      | .error error => (.error error, reg)
      | .ok nonce =>
        match reg.recordNonce groupIdHex senderHex nonce env.nonceFault with
        | (.error error, reg) => (.error error, reg)
        | (.ok .replay, reg) => (.ok (.inl (.replayDetected groupIdHex senderHex)), reg)
        | (.ok .recorded, reg) =>
          match crypto.aeadOpen key nonce envelope.ciphertext
              (messageAad groupId envelope.epoch) with
          | none =>
            (.ok (.inl (.aeadOpenFailed groupIdHex envelope.epoch)),
              reg.noteWedgeInbound groupIdHex (some envelope.epoch) env.wedgeClock
                env.wedgeFault)
          | some plaintext =>
            (.ok (.inr plaintext),
              reg.noteWedgeProgress groupIdHex env.wedgeClock env.wedgeFault)

def dispatchReceipt (crypto : ChatCrypto) (env : DispatchEnv) (reg : Registry)
    (envelope : TransitEnvelope) (groupId : GroupId) :
    Except ChatError InboundDispatch × Registry :=
  match openFrame crypto env reg envelope groupId with
  | (.error error, reg) => (.error error, reg)
  | (.ok (.inl verdict), reg) => (.ok verdict, reg)
  | (.ok (.inr plaintext), reg) =>
    match crypto.parseReceipt plaintext with
    | .error reason => (.error (.invalid s!"receipt payload parse: {reason}"), reg)
    | .ok payload =>
      (.ok (.receipt (hexId groupId) (hexId envelope.senderAgentId) payload.messageId
        payload.receivedAtMs),
        (reg.recordDelivery (hexId groupId) payload.messageId payload.receivedAtMs
          env.deliveryFault).2)

def MessagePayload.entry (payload : MessagePayload) (senderHex : String) : HistoryEntry where
  senderAgentIdHex := senderHex
  senderName := payload.senderName
  body := payload.body
  tsMs := payload.tsMs
  messageId := payload.messageId.getD ""
  attachment := payload.attachment
  deliveredAtMs := none
  sendState := none
  stateChangedAtMs := 0

namespace Registry

def refreshHints (reg : Registry) (crypto : ChatCrypto) (senderHex : String)
    (payload : MessagePayload) (fault : Option ChatError) : Registry :=
  match payload.advertisedRelays, payload.hintEpochMs with
  | some relays, some epoch =>
    { reg with contacts :=
        (applyRelayHint crypto reg.contacts senderHex relays epoch fault).2 }
  | _, _ => reg

end Registry

def dispatchMessage (crypto : ChatCrypto) (env : DispatchEnv) (reg : Registry)
    (envelope : TransitEnvelope) (groupId : GroupId) :
    Except ChatError InboundDispatch × Registry :=
  match openFrame crypto env reg envelope groupId with
  | (.error error, reg) => (.error error, reg)
  | (.ok (.inl verdict), reg) => (.ok verdict, reg)
  | (.ok (.inr plaintext), reg) =>
    match crypto.parseMessage plaintext with
    | .error reason => (.error (.invalid s!"message payload parse: {reason}"), reg)
    | .ok payload =>
      let payload := payload.stripInvalid
      let senderHex := hexId envelope.senderAgentId
      let reg := reg.refreshHints crypto senderHex payload env.hintFault
      (.ok (.message (hexId groupId) senderHex payload),
        (reg.mutateInPlace (hexId groupId) env.historyFault fun conv =>
          (.persist (), conv.pushHistory (payload.entry senderHex))).2)

structure WelcomeVerified where
  payload : WelcomePayload
  senderAgentHex : String
  senderPkB64 : String
  senderKemPubB64 : String
  deriving DecidableEq

/-- A refused Welcome is a hard error or a dispatch verdict. -/
inductive WelcomeRefusal where
  | hard (error : ChatError)
  | soft (dispatch : InboundDispatch)

def decryptAndVerifyWelcome (crypto : ChatCrypto) (envelope : TransitEnvelope)
    (groupId : GroupId) : Except WelcomeRefusal WelcomeVerified := do
  let senderAgentHex := hexId envelope.senderAgentId
  let drop := fun kind => WelcomeRefusal.soft (.dropped kind senderAgentHex)
  let secret ← okOr (crypto.kemDecapsulate envelope.kemCiphertext) (.soft .kemDecapFailed)
  let aeadKey := crypto.deriveAeadKey secret (utf8 kdfInfoWelcome)
  let nonce ← (parseNonce envelope.nonce).mapError .hard
  let plaintext ← okOr
    (crypto.aeadOpen aeadKey nonce envelope.ciphertext (messageAad groupId envelope.epoch))
    (.soft (.aeadOpenFailed (hexId groupId) envelope.epoch))
  let payload ← (crypto.parseWelcome plaintext).mapError fun reason =>
    .hard (.invalid s!"welcome payload parse: {reason}")
  require (payload.epoch == envelope.epoch) (drop "welcome-epoch-mismatch")
  require ((Base64.decode payload.currentKeyB64).any (·.length == aeadKeyLen))
    (drop "welcome-invalid-key-length")
  let senderDevice ← okOr
    ((allDevices payload.members).find? (·.agentIdHex == senderAgentHex))
    (drop "welcome-sender-not-member")
  let senderPkB64 ← okOr senderDevice.agentPublicKeyB64 (drop "welcome-missing-sender-pubkey")
  let senderPk ← okOr (Base64.decode senderPkB64)
    (.hard (.invalid s!"welcome sender pk b64: {crypto.base64Error senderPkB64}"))
  require (deriveAgentId crypto.signing senderPk == envelope.senderAgentId)
    (drop "welcome-pubkey-agent-mismatch")
  let canonical ← (canonicalEnvelopeBytes crypto envelope).mapError .hard
  (verifyEnvelope crypto envelope senderPk canonical).mapError fun _ => drop "bad-signature"
  .ok ⟨payload, senderAgentHex, senderPkB64, senderDevice.kemPublicKeyB64⟩

inductive RekeyResolution where
  | ignored
  | notMember
  | rekeyed (conversation : Conversation)

namespace Conversation

def rekey (now sweepNow : Nat) (payload : WelcomePayload) (conv : Conversation) : Conversation :=
  sweepPriorKeys sweepNow { conv with
    priorKeys := conv.priorKeys ++
      [⟨conv.currentEpoch, conv.currentKeyB64, now + priorKeyWindowMs⟩]
    currentEpoch := payload.epoch
    currentKeyB64 := payload.currentKeyB64
    members := payload.members
    name := payload.name
    lastRekeyAtMs := now }

def resolveRekey (env : DispatchEnv) (envelope : TransitEnvelope) (payload : WelcomePayload)
    (senderAgentHex : String) (conv : Conversation) :
    MutateAction RekeyResolution × Conversation :=
  if envelope.epoch ≤ conv.currentEpoch then (.skip .ignored, conv)
  else if hasDevice conv.members senderAgentHex then
    let conv := conv.rekey env.installClock env.sweepClock payload
    (.persist (.rekeyed conv), conv)
  else (.skip .notMember, conv)

end Conversation

def installOrRekeyConversation (env : DispatchEnv) (reg : Registry) (envelope : TransitEnvelope)
    (payload : WelcomePayload) (senderAgentHex groupIdHex : String) (trustState : TrustState) :
    Except ChatError InboundDispatch × Registry :=
  match reg.get groupIdHex with
  | (.error error, reg) => (.error error, reg)
  | (.ok none, reg) =>
    let conv := Conversation.fromWelcome env.installClock payload trustState
    match reg.save conv env.installFault with
    | (.error error, reg) => (.error error, reg)
    | (.ok _, reg) =>
      (.ok (if trustState = .pending then .welcomedPending conv else .welcomed conv), reg)
  | (.ok (some _), reg) =>
    match reg.mutateInPlace groupIdHex env.installFault
        (Conversation.resolveRekey env envelope payload senderAgentHex) with
    | (.error error, reg) => (.error error, reg)
    | (.ok .ignored, reg) => (.ok .welcomeIgnored, reg)
    | (.ok .notMember, reg) => (.ok (.dropped "rekey-from-non-member" senderAgentHex), reg)
    | (.ok (.rekeyed conv), reg) => (.ok (.rekeyed conv), reg)

def WelcomeVerified.pendingCard (verified : WelcomeVerified) : StoredContactCard where
  agentIdHex := verified.senderAgentHex
  displayName := ""
  kemPublicKeyB64 := verified.senderKemPubB64
  agentPublicKeyB64 := some verified.senderPkB64
  rendezvousHints := none
  lastHintEpochMs := none
  userIdHex := none

namespace Registry

def hasCard (reg : Registry) (agentIdHex : String) : Bool :=
  (reg.contacts.lookup agentIdHex).isSome

def trustFor (reg : Registry) (senderAgentHex : String) : TrustState :=
  if reg.hasCard senderAgentHex then .confirmed else .pending

def writeCard (reg : Registry) (card : StoredContactCard) : Registry :=
  { reg with contacts := reg.contacts.insert card.agentIdHex (.ok card) }

end Registry

def dispatchWelcome (crypto : ChatCrypto) (env : DispatchEnv) (reg : Registry)
    (envelope : TransitEnvelope) (groupId : GroupId) :
    Except ChatError InboundDispatch × Registry :=
  match decryptAndVerifyWelcome crypto envelope groupId with
  | .error (.hard error) => (.error error, reg)
  | .error (.soft verdict) => (.ok verdict, reg)
  | .ok verified =>
    match installOrRekeyConversation env reg envelope verified.payload verified.senderAgentHex
        (hexId groupId) (reg.trustFor verified.senderAgentHex) with
    | (.error error, reg) => (.error error, reg)
    | (.ok (.welcomedPending conv), reg) =>
      match env.cardFault with
      | some error => (.error error, reg)
      | none => (.ok (.welcomedPending conv), reg.writeCard verified.pendingCard)
    | (.ok verdict, reg) => (.ok verdict, reg)

def dispatchInbound (crypto : ChatCrypto) (env : DispatchEnv) (reg : Registry)
    (envelope : TransitEnvelope) : Except ChatError InboundDispatch × Registry :=
  match envelope.groupId with
  | none => (.error (.invalid "envelope has no group_id"), reg)
  | some groupId =>
    if envelope.kind = .deliveryReceipt then
      match verifySender crypto reg envelope with
      | .error error => (.error error, reg)
      | .ok (.drop verdict) => (.ok verdict, reg)
      | .ok .ok => dispatchReceipt crypto env reg envelope groupId
    else if envelope.kemCiphertext.isEmpty then
      match verifySender crypto reg envelope with
      | .error error => (.error error, reg)
      | .ok (.drop verdict) => (.ok verdict, reg)
      | .ok .ok => dispatchMessage crypto env reg envelope groupId
    else dispatchWelcome crypto env reg envelope groupId

structure WelcomeChecks (crypto : ChatCrypto) (envelope : TransitEnvelope) (groupId : GroupId)
    (verified : WelcomeVerified) (secret plaintext senderPk canonical : Bytes) (nonce : Nonce)
    (device : MemberDevice) : Prop where
  decapsulates : crypto.kemDecapsulate envelope.kemCiphertext = some secret
  parsesNonce : parseNonce envelope.nonce = .ok nonce
  opens : crypto.aeadOpen (crypto.deriveAeadKey secret (utf8 kdfInfoWelcome)) nonce
    envelope.ciphertext (messageAad groupId envelope.epoch) = some plaintext
  parsesPayload : crypto.parseWelcome plaintext = .ok verified.payload
  epoch : verified.payload.epoch = envelope.epoch
  keyLength : (Base64.decode verified.payload.currentKeyB64).any (·.length == aeadKeyLen) = true
  findsSender : (allDevices verified.payload.members).find?
    (·.agentIdHex == hexId envelope.senderAgentId) = some device
  carriesKey : device.agentPublicKeyB64 = some verified.senderPkB64
  decodesKey : Base64.decode verified.senderPkB64 = some senderPk
  bound : deriveAgentId crypto.signing senderPk = envelope.senderAgentId
  encodes : canonicalEnvelopeBytes crypto envelope = .ok canonical
  signed : SignatureHolds crypto.signing senderPk (envelopeSignBytes canonical)
    envelope.senderSignature
  sender : verified.senderAgentHex = hexId envelope.senderAgentId
  kemKey : verified.senderKemPubB64 = device.kemPublicKeyB64

variable {envelope : TransitEnvelope} {conv : Conversation} {groupIdHex senderAgentHex : String}
  {env : DispatchEnv} {reg : Registry} {payload : WelcomePayload} {trustState : TrustState}

theorem decryptAndVerifyWelcome_eq_ok :
    decryptAndVerifyWelcome crypto envelope groupId = .ok verified ↔
      ∃ secret plaintext senderPk canonical nonce device,
        WelcomeChecks crypto envelope groupId verified secret plaintext senderPk canonical nonce
          device := by
  simp only [decryptAndVerifyWelcome, bind_eq_ok, mapError_eq_ok, require_eq_ok, okOr_eq_ok,
    verifyEnvelope, mlDsaVerify_eq_ok, beq_iff_eq]
  constructor
  · rintro ⟨secret, hsecret, nonce, hnonce, plaintext, hplain, payload, hpayload, _, hepoch, _,
      hkey, device, hdevice, encoded, hencoded, senderPk, hpk, _, hbound, canonical, hcanonical,
      _, hsigned, hverified⟩
    cases hverified
    exact ⟨secret, plaintext, senderPk, canonical, nonce, device, hsecret, hnonce, hplain,
      hpayload, hepoch, hkey, hdevice, hencoded, hpk, hbound, hcanonical, hsigned, rfl, rfl⟩
  · rintro ⟨secret, plaintext, senderPk, canonical, nonce, device, checks⟩
    refine ⟨secret, checks.decapsulates, nonce, checks.parsesNonce, plaintext, checks.opens,
      verified.payload, checks.parsesPayload, (), checks.epoch, (), checks.keyLength, device,
      checks.findsSender, verified.senderPkB64, checks.carriesKey, senderPk, checks.decodesKey, (),
      checks.bound, canonical, checks.encodes, (), checks.signed, ?_⟩
    rw [← checks.sender, ← checks.kemKey]

def idealDevice (key : Bytes) : MemberDevice :=
  ⟨hexId (deriveAgentId (idealCrypto []) key), "", some (Base64.encode key), 0, .active⟩

def idealPayload (groupIdHex : String) (epoch : Nat) (key : Bytes) (others : List Member) :
    WelcomePayload :=
  ⟨groupIdHex, Base64.encode (List.replicate 32 (UInt8.ofNat epoch)), epoch,
    ⟨none, [idealDevice key], 0⟩ :: others, none⟩

def idealEnvelope (kind : EnvelopeKind) (groupId : GroupId) (epoch : Nat) (key : Bytes)
    (kemCiphertext : Bytes) : TransitEnvelope where
  version := 1
  kind := kind
  groupId := some groupId
  tenantId := none
  senderAgentId := deriveAgentId (idealCrypto []) key
  senderMachineId := []
  timestampMs := 0
  epoch := epoch
  ciphertext := kemCiphertext ++ messageAad groupId epoch
  nonce := List.replicate 12 0
  kemCiphertext := kemCiphertext
  senderSignature := key

def idealEntry (envelope : TransitEnvelope) (key : Bytes) : Bytes × Bytes :=
  (key, agentSignInput (envelopeSignBytes (envelope.nonce ++ envelope.ciphertext)))

def emptyMessage : MessagePayload := ⟨none, "", 0, none, none, none, none, none⟩

def emptyReceipt : DeliveryReceiptPayload := ⟨"", 0⟩

def quietEnv : DispatchEnv := ⟨0, 0, 0, 0, none, none, none, none, none, none, none⟩

def emptyRegistry : Registry := .new ∅ ∅ "contacts"

def Registry.ofConversation (conv : Conversation) : Registry :=
  emptyRegistry.writeBack conv.groupIdHex conv

def freshGroup : GroupId := Vector.replicate 32 0xa0

def bobGroup : GroupId := Vector.replicate 32 0xb0

def bobKey : Bytes := List.replicate 32 0xb

def malloryKey : Bytes := List.replicate 32 0x66

def bobId : AgentId := deriveAgentId (idealCrypto []) bobKey

def malloryId : AgentId := deriveAgentId (idealCrypto []) malloryKey

def aliceKey : Bytes := List.replicate 32 0xa

def bobConversation : Conversation :=
  .fromWelcome 0 (idealPayload (hexId bobGroup) 5 bobKey [⟨none, [idealDevice aliceKey], 0⟩])
    .confirmed

theorem malloryId_ne_bobId : hexId malloryId ≠ hexId bobId := by decide +kernel

theorem freshGroup_ne_bobGroup : hexId freshGroup ≠ hexId bobGroup := by decide +kernel

theorem Registry.stored_ofConversation (conv : Conversation) :
    (ofConversation conv).stored = Function.update (fun _ => none) conv.groupIdHex (some conv) :=
  stored_writeBack emptyRegistry conv.groupIdHex conv

theorem Registry.not_known_ofConversation (other : groupIdHex ≠ conv.groupIdHex) :
    ¬ (ofConversation conv).Known groupIdHex := by
  simp only [Known, ofConversation, writeBack, sealFile, cacheInsert, emptyRegistry, new,
    lookup_insert, other]
  simp

/-- The conversation that a Welcome writes, and the group it is written under. -/
inductive WelcomeWrites (env : DispatchEnv) (reg : Registry) (envelope : TransitEnvelope)
    (payload : WelcomePayload) (senderAgentHex groupIdHex : String) (trustState : TrustState) :
    String → Conversation → Prop
  | install (fault : env.installFault = none) (unknown : ¬ reg.Known groupIdHex) :
      WelcomeWrites env reg envelope payload senderAgentHex groupIdHex trustState
        payload.groupIdHex (.fromWelcome env.installClock payload trustState)
  | rekey (fault : env.installFault = none) (conv : Conversation)
      (stored : reg.stored groupIdHex = some conv) (ahead : conv.currentEpoch < envelope.epoch)
      (member : hasDevice conv.members senderAgentHex = true) :
      WelcomeWrites env reg envelope payload senderAgentHex groupIdHex trustState groupIdHex
        (conv.rekey env.installClock env.sweepClock payload)

theorem WelcomeWrites.unique
    (first : WelcomeWrites env reg envelope payload senderAgentHex groupIdHex trustState group conv)
    (second :
      WelcomeWrites env reg envelope payload senderAgentHex groupIdHex trustState group' conv') :
    group = group' ∧ conv = conv' := by
  cases first with
  | install _ unknown =>
    cases second with
    | install => exact ⟨rfl, rfl⟩
    | rekey _ conv stored => exact absurd (known_of_stored stored) unknown
  | rekey _ conv stored =>
    cases second with
    | install _ unknown => exact absurd (known_of_stored stored) unknown
    | rekey _ conv' stored' =>
      rw [stored] at stored'
      cases stored'
      exact ⟨rfl, rfl⟩

theorem not_writes_of_fault (h : env.installFault = some error) (group : String)
    (conv : Conversation) :
    ¬ WelcomeWrites env reg envelope payload senderAgentHex groupIdHex trustState group conv := by
  intro writes
  cases writes <;> simp_all

theorem not_writes_of_stored (stored : reg.stored groupIdHex = some conv)
    (barred : conv.currentEpoch < envelope.epoch → ¬ hasDevice conv.members senderAgentHex = true)
    (group : String) (conv' : Conversation) :
    ¬ WelcomeWrites env reg envelope payload senderAgentHex groupIdHex trustState group conv' := by
  intro writes
  cases writes with
  | install _ unknown => exact unknown (known_of_stored stored)
  | rekey _ conv' stored' ahead member =>
    rw [stored] at stored'
    cases stored'
    exact barred ahead member

theorem installOrRekeyConversation_stored (env : DispatchEnv) (reg : Registry)
    (envelope : TransitEnvelope) (payload : WelcomePayload) (senderAgentHex groupIdHex : String)
    (trustState : TrustState) :
    let after := (installOrRekeyConversation env reg envelope payload senderAgentHex groupIdHex
      trustState).2
    let writes := WelcomeWrites env reg envelope payload senderAgentHex groupIdHex trustState
    (∃ group conv, writes group conv ∧
        after.stored = Function.update reg.stored group (some conv)) ∨
      (∀ group conv, ¬ writes group conv) ∧ after.stored = reg.stored := by
  unfold installOrRekeyConversation
  generalize hg : reg.get groupIdHex = got
  have spec := hg ▸ reg.get_spec groupIdHex
  cases spec with
  | failed error known unstored =>
    refine .inr ⟨?_, rfl⟩
    intro group conv writes
    cases writes <;> simp_all
  | absent unknown unstored =>
    cases hf : env.installFault with
    | some error => exact .inr ⟨not_writes_of_fault hf, rfl⟩
    | none => exact .inl ⟨_, _, .install hf unknown, reg.stored_save _⟩
  | found conv after known stored cached same =>
    dsimp only
    by_cases behind : envelope.epoch ≤ conv.currentEpoch
    · have hm : conv.resolveRekey env envelope payload senderAgentHex = (.skip .ignored, conv) := by
        simp [Conversation.resolveRekey, behind]
      rw [mutateInPlace, mutateLocked_skip cached hm]
      exact .inr ⟨not_writes_of_stored stored (by omega), same⟩
    · by_cases member : hasDevice conv.members senderAgentHex = true
      · have hm : conv.resolveRekey env envelope payload senderAgentHex =
            (.persist (.rekeyed (conv.rekey env.installClock env.sweepClock payload)),
              conv.rekey env.installClock env.sweepClock payload) := by
          simp [Conversation.resolveRekey, behind, member]
        cases hf : env.installFault with
        | some error =>
          rw [mutateInPlace, mutateLocked_fault cached hm]
          exact .inr ⟨not_writes_of_fault hf, same⟩
        | none =>
          rw [mutateInPlace, mutateLocked_persist cached hm]
          refine .inl ⟨_, _, .rekey hf conv stored (by omega) member, ?_⟩
          rw [← same]
          exact after.stored_writeBack _ _
      · have hm : conv.resolveRekey env envelope payload senderAgentHex =
            (.skip .notMember, conv) := by
          simp [Conversation.resolveRekey, behind, member]
        rw [mutateInPlace, mutateLocked_skip cached hm]
        exact .inr ⟨not_writes_of_stored stored fun _ => member, same⟩

theorem WelcomeWrites.stored (writes :
      WelcomeWrites env reg envelope payload senderAgentHex groupIdHex trustState group conv) :
    (installOrRekeyConversation env reg envelope payload senderAgentHex groupIdHex
      trustState).2.stored = Function.update reg.stored group (some conv) := by
  rcases installOrRekeyConversation_stored env reg envelope payload senderAgentHex groupIdHex
    trustState with ⟨_, _, written, h⟩ | ⟨idle, _⟩
  · obtain ⟨rfl, rfl⟩ := written.unique writes
    exact h
  · exact absurd writes (idle group conv)

theorem dispatchWelcome_stored
    (accepted : decryptAndVerifyWelcome crypto envelope groupId = .ok verified) (env : DispatchEnv)
    (reg : Registry) :
    (dispatchWelcome crypto env reg envelope groupId).2.stored =
      (installOrRekeyConversation env reg envelope verified.payload verified.senderAgentHex
        (hexId groupId) (reg.trustFor verified.senderAgentHex)).2.stored := by
  unfold dispatchWelcome
  rw [accepted]
  dsimp only
  generalize installOrRekeyConversation env reg envelope verified.payload verified.senderAgentHex
    (hexId groupId) (reg.trustFor verified.senderAgentHex) = outcome
  obtain ⟨result, after⟩ := outcome
  rcases result with error | verdict
  · rfl
  · cases verdict with
    | welcomedPending conv => cases env.cardFault <;> rfl
    | _ => rfl

namespace Registry.Invariant

variable {fine : Conversation → Prop} {holds : Registry → Prop} (rule : Invariant fine holds)
include rule

variable {reg : Registry}

section
variable (h : holds reg) (crypto : ChatCrypto)
include h

theorem openFrame (env : DispatchEnv)
    (envelope : TransitEnvelope) (groupId : GroupId) :
    holds (openFrame crypto env reg envelope groupId).2 := by
  unfold Chat.openFrame
  have got := rule.get h (hexId groupId)
  dsimp only
  generalize reg.get (hexId groupId) = found at got
  obtain ⟨result, looked⟩ := found
  rcases result with error | _ | conv
  · exact got
  · exact got
  · dsimp only
    split
    · exact got
    · exact rule.noteWedgeInbound got _ _ _ _
    · split
      · exact got
      · rename_i nonce _
        have recorded := rule.recordNonce got (hexId groupId) (hexId envelope.senderAgentId) nonce
          env.nonceFault
        generalize looked.recordNonce (hexId groupId) (hexId envelope.senderAgentId) nonce
          env.nonceFault = outcome at recorded
        obtain ⟨verdict, noted⟩ := outcome
        rcases verdict with error | _ | _
        · exact recorded
        · dsimp only
          split
          · exact rule.noteWedgeInbound recorded _ _ _ _
          · exact rule.noteWedgeProgress recorded _ _ _
        · exact recorded

theorem dispatchReceipt (env : DispatchEnv)
    (envelope : TransitEnvelope) (groupId : GroupId) :
    holds (dispatchReceipt crypto env reg envelope groupId).2 := by
  unfold Chat.dispatchReceipt
  have opened := rule.openFrame h crypto env envelope groupId
  generalize Chat.openFrame crypto env reg envelope groupId = frame at opened
  obtain ⟨result, after⟩ := frame
  rcases result with error | verdict | plaintext
  · exact opened
  · exact opened
  · dsimp only
    split
    · exact opened
    · exact rule.recordDelivery opened _ _ _ _

theorem refreshHints (senderHex : String)
    (payload : MessagePayload) (fault : Option ChatError) :
    holds (reg.refreshHints crypto senderHex payload fault) := by
  unfold Registry.refreshHints
  split
  · exact rule.contacts h _
  · exact h

theorem dispatchMessage (env : DispatchEnv)
    (envelope : TransitEnvelope) (groupId : GroupId) :
    holds (dispatchMessage crypto env reg envelope groupId).2 := by
  unfold Chat.dispatchMessage
  have opened := rule.openFrame h crypto env envelope groupId
  generalize Chat.openFrame crypto env reg envelope groupId = frame at opened
  obtain ⟨result, after⟩ := frame
  rcases result with error | verdict | plaintext
  · exact opened
  · exact opened
  · dsimp only
    split
    · exact opened
    · exact rule.mutateInPlace (rule.refreshHints opened crypto _ _ _)
        (rule.respects_of_members fun _ => ⟨rfl, rfl⟩) _ _

end

theorem installOrRekeyConversation (h : holds reg)
    (ok : ∀ conv : Conversation, conv.members = payload.members → fine conv) (env : DispatchEnv)
    (envelope : TransitEnvelope) (senderAgentHex groupIdHex : String) (trustState : TrustState) :
    holds (installOrRekeyConversation env reg envelope payload senderAgentHex groupIdHex
      trustState).2 := by
  unfold Chat.installOrRekeyConversation
  have got := rule.get h groupIdHex
  generalize reg.get groupIdHex = found at got
  obtain ⟨result, looked⟩ := found
  rcases result with error | _ | conv
  · exact got
  · have installed := rule.save got (ok (.fromWelcome env.installClock payload trustState) rfl)
      env.installFault
    dsimp only
    split <;> simp_all
  · have respects : Respects fine
        (Conversation.resolveRekey env envelope payload senderAgentHex) := by
      intro conv held
      unfold Conversation.resolveRekey
      split
      · exact ⟨rfl, held⟩
      · split
        · exact ⟨rfl, ok _ rfl⟩
        · exact ⟨rfl, held⟩
    have mutated := rule.mutateInPlace got respects groupIdHex env.installFault
    dsimp only
    split <;> simp_all

section
variable (h : holds reg) (crypto : ChatCrypto) (env : DispatchEnv) (envelope : TransitEnvelope)
include h

theorem dispatchWelcome (groupId : GroupId)
    (ok : ∀ verified, decryptAndVerifyWelcome crypto envelope groupId = .ok verified →
      ∀ conv : Conversation, conv.members = verified.payload.members → fine conv) :
    holds (dispatchWelcome crypto env reg envelope groupId).2 := by
  unfold Chat.dispatchWelcome
  split
  · exact h
  · exact h
  · rename_i verified accepted
    have installed := rule.installOrRekeyConversation h (ok verified accepted) env envelope
      verified.senderAgentHex (hexId groupId) (reg.trustFor verified.senderAgentHex)
    split
    · simp_all
    · split
      · simp_all
      · apply rule.contacts
        simp_all
    · simp_all

theorem dispatchInbound
    (ok : ∀ groupId verified, decryptAndVerifyWelcome crypto envelope groupId = .ok verified →
      ∀ conv : Conversation, conv.members = verified.payload.members → fine conv) :
    holds (dispatchInbound crypto env reg envelope).2 := by
  unfold Chat.dispatchInbound
  split
  · exact h
  · rename_i groupId _
    split
    · split
      · exact h
      · exact h
      · exact rule.dispatchReceipt h crypto env envelope groupId
    · split
      · split
        · exact h
        · exact h
        · exact rule.dispatchMessage h crypto env envelope groupId
      · exact rule.dispatchWelcome h crypto env envelope groupId (ok groupId)

end

end Registry.Invariant

end Fetchit.Chat
