import Fetchit.Bridge.Routes

/-! Who owns a handle. Registration verifies the v1 attestation, while the gate of the
owner-scoped endpoints prefers the key of the v2 attestation. -/
namespace Fetchit.Bridge
open Lib Lib.Outcome Lib.Run Proto.Identity Fedi Fedi.Json

/-- A request to the bridge. The owner-scoped endpoints write no column of the
`actors` table that the gate reads. -/
inductive Event where
  | register (body : Value) (nowMs : Int) (fault : Option String)
  | ownerScoped (gate : Gate) (handle : String) (request : Request) (nowMs : UInt64)
      (fault : Option String)

def step (bridge : BridgeConfig) (store : Store) : Event → Store
  | .register body nowMs fault => (register bridge store body nowMs fault).2
  | .ownerScoped _ _ _ _ _ => store

@[simp] theorem step_register (bridge : BridgeConfig) (store : Store) (body : Value)
    (nowMs : Int) (fault : Option String) :
    step bridge store (.register body nowMs fault) =
      (register bridge store body nowMs fault).2 := rfl

def history (bridge : BridgeConfig) (events : List Event) : Store :=
  run (step bridge) Store.empty events

variable {bridge : BridgeConfig} {store : Store} {inbox : Url}

theorem step_rows {property : ActorRecord → Prop} (held : ∀ row ∈ store.rows, property row)
    (accepted : ∀ body nowMs fault record, event = .register body nowMs fault →
      checkRegistration bridge body nowMs = .ok record → property record) :
    ∀ row ∈ (step bridge store event).rows, property row := by
  cases event with
  | ownerScoped gate handle request nowMs fault => exact held
  | register body nowMs fault =>
    intro row hrow
    cases register_store bridge store body nowMs fault with
    | inl hsame =>
      rw [step_register, hsame] at hrow
      exact held row hrow
    | inr hwrite =>
      obtain ⟨record, hcheck, hupsert⟩ := hwrite
      cases mem_upsert hupsert hrow with
      | inl hnew =>
        subst hnew
        exact accepted body nowMs fault row rfl hcheck
      | inr hold => exact held row hold

def KeyBound (bridge : BridgeConfig) (row : ActorRecord) : Prop :=
  ∃ actor : Actor, row.docJson = actor.toJsonLd ∧
    hexId (deriveAgentId bridge.crypto (attestedKey actor)) = row.agentId

/-- What registration leaves unchecked: the v2 key of an accepted document hashes to
the agent id that the v1 attestation proves. -/
def V2KeyAgrees (bridge : BridgeConfig) : Event → Prop
  | .ownerScoped _ _ _ _ _ => True
  | .register body _ _ => ∀ actor agentId v2,
      Actor.fromJsonLd bridge.parsers body = .ok actor →
      actor.verifyAttestation bridge.crypto bridge.parsers = .ok agentId →
      actor.mlDsaAttestationV2 = some v2 →
      hexId (deriveAgentId bridge.crypto v2.mlDsaPubkey) = agentId

theorem verifyAttestation_key {actor : Actor}
    (h : actor.verifyAttestation crypto parsers = .ok agentId) :
    hexId (deriveAgentId crypto actor.mlDsaAttestation.mlDsaPubkey) = agentId := by
  obtain ⟨der, _, hbinding⟩ := verifyAttestation_eq_ok.mp h
  exact (Attestation.verifyBinding_eq_ok.mp hbinding).1

theorem keyBound_of_checkRegistration (agrees : V2KeyAgrees bridge (.register body nowMs fault))
    (h : checkRegistration bridge body nowMs = .ok record) : KeyBound bridge record := by
  obtain ⟨actor, hactor, hverify, _, _, hdoc⟩ := checkRegistration_eq_ok h
  refine ⟨actor, hdoc, ?_⟩
  unfold attestedKey
  cases hv2 : actor.mlDsaAttestationV2 with
  | none => exact verifyAttestation_key hverify
  | some v2 => exact agrees actor record.agentId v2 hactor hverify hv2

theorem step_keyBound (held : ∀ row ∈ store.rows, KeyBound bridge row)
    (agrees : V2KeyAgrees bridge event) :
    ∀ row ∈ (step bridge store event).rows, KeyBound bridge row := by
  apply step_rows held
  intro body nowMs fault record hevent hcheck
  subst hevent
  exact keyBound_of_checkRegistration agrees hcheck

theorem history_keyBound
    (agrees : Meets (step bridge) (fun _ event => V2KeyAgrees bridge event) Store.empty events) :
    ∀ row ∈ (history bridge events).rows, KeyBound bridge row := by
  refine run_invariant (fun store => ∀ row ∈ store.rows, KeyBound bridge row) ?_ events
    Store.empty ?_ agrees
  · intro store event held hevent
    exact step_keyBound held hevent
  · intro row hrow
    cases hrow

def SignedByAgent (bridge : BridgeConfig) (agentId : String) (request : Request) : Prop :=
  ∃ hdrs key, parseHeaders request.headers = .ok hdrs ∧
    hexId (deriveAgentId bridge.crypto key) = agentId ∧
    SignatureHolds bridge.crypto key
      (canonicalRequest bridge.crypto request.method request.path hdrs.tsMs request.body) hdrs.sig

theorem signedByAgent_of_keyBound {gate : Gate} {handle : String}
    (bound : ∀ row ∈ store.rows, KeyBound bridge row)
    (h : gate.authenticate bridge store handle request nowMs fault = .ok record) :
    SignedByAgent bridge record.agentId request := by
  obtain ⟨hrow, hdrs, decoded, hhdrs, hdecoded, hholds⟩ := authenticate_eq_ok h
  obtain ⟨actor, hdoc, hkey⟩ := bound record (List.mem_of_find?_eq_some hrow)
  rw [hdoc] at hdecoded
  have hsame := fromJsonLd_toJsonLd hdecoded
  have hattested : attestedKey decoded = attestedKey actor := by
    unfold attestedKey
    rw [hsame.1, hsame.2]
  rw [hattested] at hholds
  exact ⟨hdrs, attestedKey actor, hhdrs, hkey, hholds⟩

/-! A bridge with evaluable primitives, and the document of one agent. -/

def aliceUrl : Url :=
  ⟨"https://etchit.io/actors/alice", "https", some "etchit.io", none, "/actors/alice"⟩

def aliceInbox : Url :=
  ⟨"https://etchit.io/actors/alice/inbox", "https", some "etchit.io", none,
    "/actors/alice/inbox"⟩

def aliceOutbox : Url :=
  ⟨"https://etchit.io/actors/alice/outbox", "https", some "etchit.io", none,
    "/actors/alice/outbox"⟩

def malloryInbox : Url :=
  ⟨"https://mallory.example/inbox", "https", some "mallory.example", none, "/inbox"⟩

def exampleParsers : Parsers where
  parseUrl text := okOr ([aliceUrl, aliceInbox, aliceOutbox, malloryInbox].find?
    (·.asStr == text)) "relative URL without a base"
  base64Error _ := "Invalid padding"
  structError _ := "invalid type"

def agentOf (key : Bytes) : String := hexId (deriveAgentId (idealCrypto []) key)

def aliceInput : Bytes :=
  (Attestation.signingInput "alice" aliceUrl (agentOf [1]) [1, 2, 3]).toOption.getD []

def followMessage : Bytes :=
  canonicalRequest (idealCrypto []) "POST" "/actors/alice/following" 1000 []

def exampleSigned : List (Bytes × Bytes) :=
  [([1], agentSignInput aliceInput), ([1], agentSignInput followMessage),
    ([2], agentSignInput followMessage)]

def exampleBridge : BridgeConfig := ⟨idealCrypto exampleSigned, exampleParsers, "etchit.io", []⟩

def alicePem : String := "-----BEGIN PUBLIC KEY-----\nAQID\n-----END PUBLIC KEY-----\n"

def aliceActor (inbox : Url) (v2 : Option Attestation.ActorAttestationV2) : Actor where
  id := aliceUrl
  preferredUsername := "alice"
  inbox := inbox
  outbox := aliceOutbox
  rsaPublicKeyPem := alicePem
  mlDsaAttestation := ⟨[1], [1]⟩
  mlDsaAttestationV2 := v2
  iconUrl := none
  iconMediaType := none

def aliceTwice (inbox : Url) (v2 : Option Attestation.ActorAttestationV2) : List Event :=
  [.register (aliceActor aliceInbox none).toJsonLd 0 none,
    .register (aliceActor inbox v2).toJsonLd 1 none]

def followRequest (key : Bytes) : Request where
  headers := signedHeaders (deriveAgentId (idealCrypto []) [1]) "1000" key
  method := "POST"
  path := "/actors/alice/following"
  body := []

/-- In every history of registrations whose v2 keys agree with their v1 keys, a
request that passes the gate of a handle is signed by the agent of the handle's row. -/
theorem ownerScoped_signedByAgent (bridge : BridgeConfig) (events : List Event)
    (agrees : Meets (step bridge) (fun _ event => V2KeyAgrees bridge event) Store.empty events)
    (gate : Gate) (handle : String) (request : Request) (nowMs : UInt64)
    (fault : Option String) (record : ActorRecord)
    (h : gate.authenticate bridge (history bridge events) handle request nowMs fault =
      .ok record) :
    (history bridge events).actorByHandle handle = some record ∧
      SignedByAgent bridge record.agentId request :=
  ⟨(authenticate_eq_ok h).1, signedByAgent_of_keyBound (history_keyBound agrees) h⟩

theorem aliceActor_decodes :
    Actor.fromJsonLd exampleBridge.parsers (aliceActor aliceInbox none).toJsonLd =
      .ok (aliceActor aliceInbox none) := by
  decide +kernel

theorem followRequest_passes :
    (authActor.authenticate exampleBridge (history exampleBridge (aliceTwice aliceInbox none))
        "alice" (followRequest [1]) 1000 none).toOption.map (·.agentId) = some (agentOf [1]) ∧
      (authActor.authenticate exampleBridge
        (history exampleBridge (aliceTwice aliceInbox (some ⟨2, "", "", 0, [2], []⟩)))
        "alice" (followRequest [2]) 1000 none).toOption.map (·.agentId) = some (agentOf [1]) := by
  decide +kernel

theorem ownerScoped_signedByAgent_alice :
    SignedByAgent exampleBridge (agentOf [1]) (followRequest [1]) := by
  have hagrees : Meets (step exampleBridge) (fun _ event => V2KeyAgrees exampleBridge event)
      Store.empty (aliceTwice aliceInbox none) := by
    refine ⟨?_, ?_, trivial⟩ <;>
    · intro actor agentId v2 hactor _ hv2
      rw [aliceActor_decodes] at hactor
      cases hactor
      cases hv2
  obtain ⟨record, passes, agent⟩ := map_toOption_eq_some.mp followRequest_passes.1
  rw [← agent]
  exact (ownerScoped_signedByAgent exampleBridge _ hagrees authActor "alice" _ 1000 none record
    passes).2

/-- An attacker registers the owner's own document again with a v2 attestation that
carries the attacker's key and no valid signature, and then passes the owner's gate. -/
theorem ownerScoped_foreign_key :
    ∃ record, authActor.authenticate exampleBridge
        (history exampleBridge (aliceTwice aliceInbox (some ⟨2, "", "", 0, [2], []⟩)))
        "alice" (followRequest [2]) 1000 none = .ok record ∧
      ¬ SignedByAgent exampleBridge record.agentId (followRequest [2]) := by
  obtain ⟨record, passes, agent⟩ := map_toOption_eq_some.mp followRequest_passes.2
  refine ⟨record, passes, ?_⟩
  rw [agent]
  rintro ⟨hdrs, key, hhdrs, hkey, hholds⟩
  have headers : parseHeaders (followRequest [2]).headers = .ok ⟨agentOf [1], 1000, [2]⟩ := by
    decide +kernel
  cases headers.symm.trans hhdrs
  have hforeign := (idealCrypto_holds_iff.mp hholds).1
  subst hforeign
  have hdistinct : deriveAgentId (idealCrypto []) [2] ≠ deriveAgentId (idealCrypto []) [1] := by
    decide +kernel
  exact hdistinct (hexId_injective hkey)

end Fetchit.Bridge
