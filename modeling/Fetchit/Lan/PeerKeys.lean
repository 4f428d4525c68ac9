import Fetchit.Lib.Run
import Fetchit.Chat.Inbound
import Fetchit.Lan.Direct

/-! Peer authentication on the LAN. The handshake trusts the key cache of the registry, which
every saved or hydrated conversation fills from its member devices. When all those devices
carry keys that hash to their agent ids, an accepted peer holds a key of the agent it claims
to be. -/
namespace Fetchit.Lan
open Lib Lib.Run Chat Proto.Identity Proto.Envelope

def GenuineMembers (crypto : Crypto) (members : List Member) : Prop :=
  ∀ device ∈ allDevices members, ∀ entry, device.cachedKey = some entry →
    hexId (deriveAgentId crypto entry.2) = entry.1

def Genuine (crypto : Crypto) (conv : Conversation) : Prop := GenuineMembers crypto conv.members

/-- The conversations the registry holds are genuine, and so is every cached key. -/
structure KeysGenuine (crypto : Crypto) (reg : Registry) : Prop where
  cached : ∀ {groupIdHex conv}, reg.byGroupId.lookup groupIdHex = some conv →
    conv.groupIdHex = groupIdHex ∧ Genuine crypto conv
  filed : ∀ {groupIdHex conv}, reg.onDisk groupIdHex = some conv →
    conv.groupIdHex = groupIdHex ∧ Genuine crypto conv
  keys : ∀ {agentId key}, reg.peerPubkeys.lookup agentId = some key →
    hexId (deriveAgentId crypto key) = agentId

variable {key : Bytes} {crypto : Crypto} {reg : Registry} {conv : Conversation} {agentId : AgentId}

theorem lookup_foldl_insertKey {entries : List (String × Bytes)}
    {agentId : String} (h : (entries.foldl insertKey keys).lookup agentId = some key) :
    (agentId, key) ∈ entries ∨ keys.lookup agentId = some key := by
  induction entries generalizing keys with
  | nil => exact .inr h
  | cons entry entries ih =>
    rcases ih h with later | earlier
    · exact .inl (List.mem_cons_of_mem _ later)
    · simp only [insertKey, Registry.lookup_insert] at earlier
      split at earlier
      · rename_i same
        cases earlier
        left
        rw [same]
        exact List.mem_cons_self
      · exact .inr earlier

section
variable (h : KeysGenuine crypto reg)
include h

theorem keysGenuine_refresh (genuine : Genuine crypto conv) :
    KeysGenuine crypto (reg.refreshPubkeyCache conv) where
  cached := h.cached
  filed := h.filed
  keys := by
    intro agentId key found
    rcases lookup_foldl_insertKey found with entered | earlier
    · obtain ⟨device, mem, entry⟩ := List.mem_filterMap.mp entered
      exact genuine device mem (agentId, key) entry
    · exact h.keys earlier

theorem keysGenuine_cacheInsert
    (named : conv.groupIdHex = groupIdHex) (genuine : Genuine crypto conv) :
    KeysGenuine crypto (reg.cacheInsert groupIdHex conv) where
  cached := by
    intro query found present
    simp only [Registry.cacheInsert, Registry.lookup_insert] at present
    split at present
    · rename_i same
      cases present
      rw [same]
      exact ⟨named, genuine⟩
    · exact h.cached present
  filed := h.filed
  keys := h.keys

theorem keysGenuine_sealFile (genuine : Genuine crypto conv) :
    KeysGenuine crypto (reg.sealFile conv.groupIdHex conv) where
  cached := h.cached
  filed := by
    intro query found present
    rw [Registry.onDisk_eq_some] at present
    simp only [Registry.sealFile, Registry.lookup_insert] at present
    split at present
    · rename_i same
      cases present
      exact ⟨same.symm, genuine⟩
    · exact h.filed (Registry.onDisk_eq_some.mpr present)
  keys := h.keys

end

theorem keysGenuine_invariant (crypto : Crypto) :
    Registry.Invariant (Genuine crypto) (KeysGenuine crypto) where
  fine_members := by
    intro conv conv' same genuine
    unfold Genuine
    rw [same]
    exact genuine
  cached h := h.cached
  filed h := h.filed
  refresh := keysGenuine_refresh
  hydrate h _ filed := keysGenuine_cacheInsert h (h.filed filed).1 (h.filed filed).2
  bootstrap h _ _ genuine := keysGenuine_cacheInsert h rfl genuine
  write h genuine := keysGenuine_cacheInsert (keysGenuine_sealFile h genuine) rfl genuine
  contacts h _ := ⟨h.cached, h.filed, h.keys⟩

inductive Call where
  | get (groupIdHex : String)
  | findDmWith (peerAgentIdHex : String)
  | save (conv : Conversation) (fault : Option ChatError)
  | mutateInPlace (groupIdHex : String) (fault : Option ChatError)
      (mutate : Conversation → MutateAction Unit × Conversation)
  | mutateInPlaceOrInit (init : Conversation) (fault : Option ChatError)
      (mutate : Conversation → MutateAction Unit × Conversation)
  | recordNonce (groupIdHex senderAgentHex : String) (nonce : Nonce) (fault : Option ChatError)
  | recordDelivery (groupIdHex messageId : String) (receivedAtMs : Nat)
      (fault : Option ChatError)
  | dispatch (env : DispatchEnv) (envelope : TransitEnvelope)

def Call.step (crypto : ChatCrypto) (reg : Registry) : Call → Registry
  | .get groupIdHex => (reg.get groupIdHex).2
  | .findDmWith peerAgentIdHex => (reg.findDmWith peerAgentIdHex).2
  | .save conv fault => (reg.save conv fault).2
  | .mutateInPlace groupIdHex fault mutate => (reg.mutateInPlace groupIdHex fault mutate).2
  | .mutateInPlaceOrInit init fault mutate =>
    (reg.mutateInPlaceOrInit init.groupIdHex init fault mutate).2
  | .recordNonce groupIdHex senderAgentHex nonce fault =>
    (reg.recordNonce groupIdHex senderAgentHex nonce fault).2
  | .recordDelivery groupIdHex messageId receivedAtMs fault =>
    (reg.recordDelivery groupIdHex messageId receivedAtMs fault).2
  | .dispatch env envelope => (dispatchInbound crypto env reg envelope).2

/-- The conversations that a call brings in are genuine; for a dispatch these are the member
lists of accepted Welcomes. -/
def Call.Genuine (crypto : ChatCrypto) (keys : Crypto) : Call → Prop
  | .save conv _ => Lan.Genuine keys conv
  | .mutateInPlace _ _ mutate => Registry.Respects (Lan.Genuine keys) mutate
  | .mutateInPlaceOrInit init _ mutate =>
    Lan.Genuine keys init ∧ Registry.Respects (Lan.Genuine keys) mutate
  | .dispatch _ envelope => ∀ groupId verified,
      decryptAndVerifyWelcome crypto envelope groupId = .ok verified →
        GenuineMembers keys verified.payload.members
  | _ => True

theorem Call.step_keysGenuine {crypto : ChatCrypto}
    (h : KeysGenuine keys reg) (genuine : call.Genuine crypto keys) :
    KeysGenuine keys (Call.step crypto reg call) := by
  have rule := keysGenuine_invariant keys
  cases call with
  | get groupIdHex => exact rule.get h groupIdHex
  | findDmWith peerAgentIdHex => exact rule.findDmWith h peerAgentIdHex
  | save conv fault => exact rule.save h genuine fault
  | mutateInPlace groupIdHex fault mutate => exact rule.mutateInPlace h genuine groupIdHex fault
  | mutateInPlaceOrInit init fault mutate =>
    exact rule.mutateInPlaceOrInit h genuine.1 genuine.2 fault
  | recordNonce groupIdHex senderAgentHex nonce fault =>
    exact rule.recordNonce h groupIdHex senderAgentHex nonce fault
  | recordDelivery groupIdHex messageId receivedAtMs fault =>
    exact rule.recordDelivery h groupIdHex messageId receivedAtMs fault
  | dispatch env envelope =>
    apply rule.dispatchInbound h
    intro groupId verified accepted conv same
    unfold Lan.Genuine
    rw [same]
    exact genuine groupId verified accepted

theorem keysGenuine_run {crypto : ChatCrypto}
    (filed : ∀ groupIdHex conv,
      (Registry.new files contacts contactsDir).onDisk groupIdHex = some conv →
        conv.groupIdHex = groupIdHex ∧ Genuine keys conv)
    (genuine : ∀ call ∈ calls, call.Genuine crypto keys) :
    KeysGenuine keys (run (Call.step crypto) (.new files contacts contactsDir) calls) := by
  have start : KeysGenuine keys (.new files contacts contactsDir) := by
    refine ⟨?_, fun found => filed _ _ found, ?_⟩
    · intro groupIdHex conv found
      cases found
    · intro agentId key found
      cases found
  exact run_invariant (KeysGenuine keys)
    (fun _ _ held meets => Call.step_keysGenuine held meets) calls _ start
    (meets_of_forall (fun call mem _ => genuine call mem) _)

/-- Whoever signed the hash of a handshake on the stream is the far end of the stream: only
that end shares the hash, and only the holder of a secret key signs under it. -/
structure FarEnd (suite : LanSuite) (stream : Stream) (holds : Bytes → Prop) : Prop where
  responder : ∀ {sent prologue me offer},
    initiatorOffer suite stream sent prologue me = .ok offer →
    ∀ {key agentId x25519Pub createdAtMs sig},
      SignatureHolds suite.signing key
        (bindSigningBytes agentId x25519Pub createdAtMs offer.signedHash) sig → holds key
  initiator : ∀ {prologue me offer},
    responderOffer suite stream prologue me = .ok offer →
    ∀ {key agentId x25519Pub createdAtMs sig},
      SignatureHolds suite.signing key
        (bindSigningBytes agentId x25519Pub createdAtMs offer.signedHash) sig → holds key

theorem Offer.verify_genuine {offer : Offer suite}
    {transport : LanDirectTransport} (genuine : KeysGenuine suite.signing reg)
    (lookup : transport.contactPubkeyLookup = reg.peerMlDsaPubkey)
    (h : offer.verify transport.peerPubkeyLookup = .ok ()) :
    ∃ key, deriveAgentId suite.signing key = offer.peer.agentId ∧
      SignatureHolds suite.signing key
        (bindSigningBytes offer.proof.agentId offer.proof.x25519Pub offer.proof.createdAtMs
          offer.signedHash) offer.proof.sig := by
  obtain ⟨key, known, signed⟩ := offer.verify_eq_ok h
  rw [LanDirectTransport.peerPubkeyLookup, parseAgentId_hexId, lookup] at known
  exact ⟨key, hexId_injective (genuine.keys known), signed⟩

theorem lan_peer_authentic (crypto : ChatCrypto) (suite : LanSuite)
    (files : Map String (File ChatError Conversation)) (contacts : Contacts) (contactsDir : String)
    (calls : List Call) (transport : LanDirectTransport) (stream : Stream) (holds : Bytes → Prop)
    (filed : ∀ groupIdHex conv,
      (Registry.new files contacts contactsDir).onDisk groupIdHex = some conv →
        conv.groupIdHex = groupIdHex ∧ Genuine suite.signing conv)
    (genuine : ∀ call ∈ calls, call.Genuine crypto suite.signing)
    (lookup : transport.contactPubkeyLookup =
      (run (Call.step crypto) (.new files contacts contactsDir) calls).peerMlDsaPubkey)
    (farEnd : FarEnd suite stream holds) :
    (∀ sent prologue me bound,
      runInitiatorBound suite stream sent prologue me transport.peerPubkeyLookup = .ok bound →
        ∃ key, deriveAgentId suite.signing key = bound.verified.agentId ∧ holds key) ∧
    (∀ prologue me bound,
      runResponderBound suite stream prologue me transport.peerPubkeyLookup = .ok bound →
        ∃ key, deriveAgentId suite.signing key = bound.verified.agentId ∧ holds key) ∧
    ∀ header fuel, ∀ inbound ∈ (handleInboundConn suite transport stream header fuel).1,
      ∃ agentId key, inbound.sender = hexId agentId ∧
        (∃ transit, inbound.transit = some transit ∧ transit.senderAgentId = agentId) ∧
        deriveAgentId suite.signing key = agentId ∧ holds key := by
  have sound := keysGenuine_run filed genuine
  have responder : ∀ prologue me bound,
      runResponderBound suite stream prologue me transport.peerPubkeyLookup = .ok bound →
        ∃ key, deriveAgentId suite.signing key = bound.verified.agentId ∧ holds key := by
    intro prologue me bound h
    obtain ⟨offer, offered, verified, peer⟩ := runResponderBound_eq_ok h
    obtain ⟨key, derives, signed⟩ := offer.verify_genuine sound lookup verified
    rw [peer]
    exact ⟨key, derives, farEnd.initiator offered signed⟩
  refine ⟨?_, responder, ?_⟩
  · intro sent prologue me bound h
    obtain ⟨offer, offered, verified, peer⟩ := runInitiatorBound_eq_ok h
    obtain ⟨key, derives, signed⟩ := offer.verify_genuine sound lookup verified
    rw [peer]
    exact ⟨key, derives, farEnd.responder offered signed⟩
  · intro header fuel inbound mem
    unfold handleInboundConn at mem
    dsimp only at mem
    split at mem
    · cases mem
    · rename_i bound established
      obtain ⟨sender, carried⟩ := mem_pump mem
      simp only [Outcome.bind_eq_ok] at established
      obtain ⟨_, _, _, _, accepted⟩ := established
      obtain ⟨key, derives, held⟩ := responder _ _ bound accepted
      exact ⟨bound.verified.agentId, key, sender, carried, derives, held⟩

def plainSnow : Snow where
  Handshake := Unit
  Channel := Unit
  build _ _ _ := .ok ()
  writeMessage _ payload := .ok (payload, ())
  readMessage _ message := .ok (message, ())
  handshakeHash _ := [0x55]
  remoteStatic _ := some (List.replicate 32 9)
  intoTransportMode _ := .ok ()
  sealFrame _ plaintext := .ok (plaintext, ())
  openFrame _ frame := .ok (frame, ())

def lanKey : X25519Key := Vector.replicate 32 9

def offeringSuite (signed : List (Bytes × Bytes)) (agentId : AgentId) (key : Bytes) :
    LanSuite where
  snow := plainSnow
  signing := idealCrypto signed
  encodeProof _ := .ok []
  decodeProof _ := .ok ⟨agentId, lanKey, 0, key⟩
  encodeTransit _ := .ok []
  decodeTransit _ := .error ""
  hexError text := text

def bindingEntry (agentId : AgentId) (key : Bytes) : Bytes × Bytes :=
  (key, agentSignInput (bindSigningBytes agentId lanKey 0 [0x55]))

def openStream : Stream := ⟨fun _ _ => .ok (), fun _ _ => .ok []⟩

def aliceLan : LanLocal :=
  ⟨lanKey, deriveAgentId (idealCrypto []) aliceKey, lanKey, 0, fun _ => .ok []⟩

theorem farEnd_signers (signed : List (Bytes × Bytes)) (agentId : AgentId) (key : Bytes) :
    FarEnd (offeringSuite signed agentId key) openStream (· ∈ signed.map Prod.fst) := by
  refine ⟨?_, ?_⟩
  · intro _ _ _ _ _ _ _ _ _ _ signature
    exact List.mem_map_of_mem (idealCrypto_holds_iff.mp signature).2
  · intro _ _ _ _ _ _ _ _ _ signature
    exact List.mem_map_of_mem (idealCrypto_holds_iff.mp signature).2

def listedDevice (agentId : AgentId) (key : Bytes) : MemberDevice :=
  ⟨hexId agentId, "", some (Base64.encode key), 0, .active⟩

def registryTransport (reg : Registry) : LanDirectTransport :=
  ⟨"", lanKey, lanKey, 0, fun _ => .ok [], ∅, reg.peerMlDsaPubkey⟩

def firstWelcome : TransitEnvelope := idealEnvelope .dm freshGroup 1 malloryKey [1]

def lanPayload (others : List Member) : WelcomePayload :=
  idealPayload (hexId freshGroup) 1 malloryKey others

def lanLog (agentId : AgentId) (key : Bytes) : List (Bytes × Bytes) :=
  [idealEntry firstWelcome malloryKey, bindingEntry agentId key]

def lanChat (agentId : AgentId) (key : Bytes) (others : List Member) : ChatCrypto :=
  idealChat (lanLog agentId key) (lanPayload others) emptyMessage emptyReceipt

def lanRegistry (agentId : AgentId) (key : Bytes) (others : List Member) : Registry :=
  run (Call.step (lanChat agentId key others)) (.new ∅ ∅ "contacts")
    [.dispatch quietEnv firstWelcome]

theorem lanRegistry_eq (agentId : AgentId) (key : Bytes) (others : List Member) :
    (registryTransport (lanRegistry agentId key others)).contactPubkeyLookup =
      (run (Call.step (lanChat agentId key others)) (.new ∅ ∅ "contacts")
        [.dispatch quietEnv firstWelcome]).peerMlDsaPubkey := by
  rw [registryTransport, lanRegistry]

theorem lanRegistry_genuine
    (genuine : GenuineMembers (idealCrypto (lanLog agentId key)) (lanPayload others).members) :
    ∀ call ∈ [Call.dispatch quietEnv firstWelcome],
      call.Genuine (lanChat agentId key others) (idealCrypto (lanLog agentId key)) := by
  intro call mem
  rw [List.mem_singleton] at mem
  subst mem
  intro groupId verified accepted
  obtain ⟨_, _, _, _, _, _, checks⟩ := decryptAndVerifyWelcome_eq_ok.mp accepted
  have payload : lanPayload others = verified.payload := Except.ok.inj checks.parsesPayload
  rw [← payload]
  exact genuine

theorem lan_peer_authentic_mallory :
    ∃ key, deriveAgentId (idealCrypto (lanLog malloryId malloryKey)) key = malloryId ∧
      key ∈ (lanLog malloryId malloryKey).map Prod.fst := by
  have offered : (runInitiatorBound (offeringSuite (lanLog malloryId malloryKey) malloryId malloryKey)
      openStream [] [] aliceLan
      (registryTransport (lanRegistry malloryId malloryKey [])).peerPubkeyLookup).toOption.map
        (·.verified.agentId) = some malloryId := by decide +kernel
  obtain ⟨bound, accepted, named⟩ := Outcome.map_toOption_eq_some.mp offered
  have members : GenuineMembers (idealCrypto (lanLog malloryId malloryKey))
      (lanPayload []).members := by
    intro device mem entry cached
    have same : device = listedDevice malloryId malloryKey := List.mem_singleton.mp mem
    have key : (listedDevice malloryId malloryKey).cachedKey = some (hexId malloryId, malloryKey) := by
      decide +kernel
    rw [same, key] at cached
    cases cached
    rfl
  have authentic := lan_peer_authentic (lanChat malloryId malloryKey [])
    (offeringSuite (lanLog malloryId malloryKey) malloryId malloryKey) ∅ ∅ "contacts"
    [.dispatch quietEnv firstWelcome] (registryTransport (lanRegistry malloryId malloryKey []))
    openStream (· ∈ (lanLog malloryId malloryKey).map Prod.fst) (by intro _ _ found; cases found)
    (lanRegistry_genuine members) (lanRegistry_eq _ _ _) (farEnd_signers _ _ _)
  rw [← named]
  exact authentic.1 [] [] aliceLan bound accepted

def impostorKey : Bytes := List.replicate 32 0xee

/-- Mallory's Welcome lists Bob's agent id under a key that Mallory holds; the LAN handshake
then accepts Mallory as Bob. -/
theorem lan_accepts_impostor :
    let others : List Member := [⟨none, [listedDevice bobId impostorKey], 0⟩]
    let signed := lanLog bobId impostorKey
    let suite := offeringSuite signed bobId impostorKey
    let transport := registryTransport (lanRegistry bobId impostorKey others)
    FarEnd suite openStream (· ∈ signed.map Prod.fst) ∧
      (∃ bound,
        runInitiatorBound suite openStream [] [] aliceLan transport.peerPubkeyLookup = .ok bound ∧
          bound.verified.agentId = bobId) ∧
      ∀ key ∈ signed.map Prod.fst, deriveAgentId suite.signing key ≠ bobId := by
  intro others signed suite transport
  refine ⟨farEnd_signers signed bobId impostorKey, ?_, ?_⟩
  · have offered : (runInitiatorBound (offeringSuite (lanLog bobId impostorKey) bobId impostorKey)
        openStream [] [] aliceLan (registryTransport (lanRegistry bobId impostorKey
          [⟨none, [listedDevice bobId impostorKey], 0⟩])).peerPubkeyLookup).toOption.map
          (·.verified.agentId) = some bobId := by decide +kernel
    exact Outcome.map_toOption_eq_some.mp offered
  · have others : ∀ key ∈ [malloryKey, impostorKey], deriveAgentId (idealCrypto []) key ≠ bobId := by
      decide
    exact others

end Fetchit.Lan
