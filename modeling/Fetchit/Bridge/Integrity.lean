import Fetchit.Bridge.Ownership

/-! What the holder of an agent key authorised. The v1 signing input covers the handle,
the id and the RSA key; the inbox, the outbox and the v2 attestation of a document are
outside it. -/
namespace Fetchit.Bridge
open Lib.Run Proto.Identity Fedi Fedi.Json Fedi.Attestation

/-- Unforgeability: under the attestation domains, a key of the agent signs the
bindings of the identities its holder has published, and nothing else. -/
def SignsOnly (crypto : Crypto) (agentId : String) (published : List ActorIdentity) : Prop :=
  ∀ key message signature, hexId (deriveAgentId crypto key) = agentId →
    SignatureHolds crypto key message signature → IsAttestation message →
    ∃ identity ∈ published,
      signingInput identity.handle identity.actorUrl agentId identity.spkiDer = .ok message ∨
      ∃ v2, identity.mlDsaAttestationV2 = some v2 ∧
        signingInputV2 identity.handle identity.actorUrl agentId identity.spkiDer
          v2.profileAddr v2.relayHint v2.hintEpochMs = .ok message

def AuthorisedV2 (published : List ActorIdentity) (identity : ActorIdentity)
    (v2 : ActorAttestationV2) : Prop :=
  v2.version = 2 ∧ ∃ other ∈ published, ∃ signed, other.mlDsaAttestationV2 = some signed ∧
    (other.handle = identity.handle ∧ other.actorUrl.asStr = identity.actorUrl.asStr ∧
      other.spkiDer = identity.spkiDer) ∧
    v2.profileAddr = signed.profileAddr ∧ v2.relayHint = signed.relayHint ∧
    v2.hintEpochMs = signed.hintEpochMs

def Authorised (parsers : Parsers) (published : List ActorIdentity) (actor : Actor) : Prop :=
  ∃ identity ∈ published, ∃ minted, Actor.fromIdentity parsers identity = .ok minted ∧
    actor.id.asStr = minted.id.asStr ∧ actor.preferredUsername = minted.preferredUsername ∧
    actor.inbox = minted.inbox ∧ actor.outbox = minted.outbox ∧
    spkiPemToDer parsers actor.rsaPublicKeyPem = .ok identity.spkiDer ∧
    ∀ v2, actor.mlDsaAttestationV2 = some v2 → AuthorisedV2 published identity v2

/-- What registration leaves unchecked: the inbox and the outbox are derived from the
signed id, and a v2 attestation verifies for the same agent. -/
def ContentsCovered (bridge : BridgeConfig) : Event → Prop
  | .ownerScoped _ _ _ _ _ => True
  | .register body _ _ => ∀ actor agentId, Actor.fromJsonLd bridge.parsers body = .ok actor →
      actor.verifyAttestation bridge.crypto bridge.parsers = .ok agentId →
      appendPath bridge.parsers actor.id "inbox" = .ok actor.inbox ∧
      appendPath bridge.parsers actor.id "outbox" = .ok actor.outbox ∧
      ∀ v2, actor.mlDsaAttestationV2 = some v2 →
        actor.verifyAttestationV2 bridge.crypto bridge.parsers = .ok agentId

/-- A document with a signature of the agent names the id and the handle of the stored one. The
signature has no time in it, so an older document with another id would be accepted as well. -/
def Current (bridge : BridgeConfig) (agentId : String) (record : ActorRecord) : Event → Prop
  | .ownerScoped _ _ _ _ _ => True
  | .register body _ _ => ∀ actor, Actor.fromJsonLd bridge.parsers body = .ok actor →
      actor.verifyAttestation bridge.crypto bridge.parsers = .ok agentId →
      actor.id.asStr = record.actorUrl ∧ actor.preferredUsername = record.handle

variable {parsers : Parsers} {actor : Actor} {agentId : String} {published : List ActorIdentity}
  {bridge : BridgeConfig}

theorem published_of_verifyAttestation (signs : SignsOnly crypto agentId published)
    (h : actor.verifyAttestation crypto parsers = .ok agentId) :
    ∃ identity ∈ published, actor.preferredUsername = identity.handle ∧
      actor.id.asStr = identity.actorUrl.asStr ∧
      spkiPemToDer parsers actor.rsaPublicKeyPem = .ok identity.spkiDer := by
  obtain ⟨der, hder, hbinding⟩ := verifyAttestation_eq_ok.mp h
  obtain ⟨hkey, input, hinput, hholds⟩ := verifyBinding_eq_ok.mp hbinding
  obtain ⟨identity, hidentity, hsigned⟩ :=
    signs _ _ _ hkey hholds (isAttestation_signingInput hinput)
  cases hsigned with
  | inl hv1 =>
    obtain ⟨hhandle, hurl, _, hspki⟩ := signingInput_injective hinput hv1
    rw [hspki] at hder
    exact ⟨identity, hidentity, hhandle, hurl, hder⟩
  | inr hv2 =>
    obtain ⟨v2, _, hv2⟩ := hv2
    exact absurd rfl (signingInput_ne_signingInputV2 hinput hv2)

theorem authorisedV2_of_verifyAttestationV2 (signs : SignsOnly crypto agentId published)
    (hhandle : actor.preferredUsername = identity.handle)
    (hurl : actor.id.asStr = identity.actorUrl.asStr)
    (hspki : spkiPemToDer parsers actor.rsaPublicKeyPem = .ok identity.spkiDer)
    (hv2 : actor.mlDsaAttestationV2 = some v2)
    (h : actor.verifyAttestationV2 crypto parsers = .ok agentId) :
    AuthorisedV2 published identity v2 := by
  obtain ⟨der, hder, hbinding⟩ := (verifyAttestationV2_eq_ok hv2).mp h
  rw [hspki] at hder
  cases hder
  obtain ⟨hversion, hkey, input, hinput, hholds⟩ := verifyBindingV2_eq_ok.mp hbinding
  obtain ⟨other, hother, hsigned⟩ :=
    signs _ _ _ hkey hholds (isAttestation_signingInputV2 hinput)
  cases hsigned with
  | inl hv1 => exact absurd rfl (signingInput_ne_signingInputV2 hv1 hinput)
  | inr hv2 =>
    obtain ⟨signed, hsigned, hmessage⟩ := hv2
    obtain ⟨⟨hh, hu, _, hd⟩, hprofile, hrelay, hepoch⟩ := signingInputV2_injective hinput hmessage
    exact ⟨hversion, other, hother, signed, hsigned, ⟨hh.symm.trans hhandle, hu.symm.trans hurl,
      hd.symm⟩, hprofile, hrelay, hepoch⟩

theorem fromIdentity_of_appendPath (hurl : actor.id.asStr = identity.actorUrl.asStr)
    (hinbox : appendPath parsers actor.id "inbox" = .ok actor.inbox)
    (houtbox : appendPath parsers actor.id "outbox" = .ok actor.outbox) :
    ∃ minted, Actor.fromIdentity parsers identity = .ok minted ∧
      minted.id = identity.actorUrl ∧ minted.preferredUsername = identity.handle ∧
      minted.inbox = actor.inbox ∧ minted.outbox = actor.outbox := by
  rw [appendPath_congr parsers "inbox" hurl] at hinbox
  rw [appendPath_congr parsers "outbox" hurl] at houtbox
  exact ⟨_, fromIdentity_ok hinbox houtbox, rfl, rfl, rfl, rfl⟩

theorem authorised_of_covered (signs : SignsOnly bridge.crypto agentId published)
    (covered : ContentsCovered bridge (.register body nowMs fault))
    (hactor : Actor.fromJsonLd bridge.parsers body = .ok actor)
    (hverify : actor.verifyAttestation bridge.crypto bridge.parsers = .ok agentId) :
    Authorised bridge.parsers published actor := by
  obtain ⟨hinbox, houtbox, hv2⟩ := covered actor agentId hactor hverify
  obtain ⟨identity, hidentity, hhandle, hurl, hspki⟩ :=
    published_of_verifyAttestation signs hverify
  obtain ⟨minted, hminted, hid, hname, hmintedInbox, hmintedOutbox⟩ :=
    fromIdentity_of_appendPath hurl hinbox houtbox
  refine ⟨identity, hidentity, minted, hminted, hid ▸ hurl, hname ▸ hhandle, hmintedInbox.symm,
    hmintedOutbox.symm, hspki, ?_⟩
  intro v2 hsome
  exact authorisedV2_of_verifyAttestationV2 signs hhandle hurl hspki hsome (hv2 v2 hsome)

def RowAuthorised (bridge : BridgeConfig) (agentId : String) (published : List ActorIdentity)
    (row : ActorRecord) : Prop :=
  row.agentId = agentId →
    ∃ actor : Actor, row.docJson = actor.toJsonLd ∧ row.actorUrl = actor.id.asStr ∧
      appendPath bridge.parsers actor.id "inbox" = .ok actor.inbox ∧
      appendPath bridge.parsers actor.id "outbox" = .ok actor.outbox ∧
      Authorised bridge.parsers published actor

theorem step_rowAuthorised (signs : SignsOnly bridge.crypto agentId published)
    (held : ∀ row ∈ store.rows, RowAuthorised bridge agentId published row)
    (covered : ContentsCovered bridge event) :
    ∀ row ∈ (step bridge store event).rows, RowAuthorised bridge agentId published row := by
  apply step_rows held
  intro body nowMs fault record hevent hcheck hagent
  subst hevent
  obtain ⟨actor, hactor, hverify, _, hurl, hdoc⟩ := checkRegistration_eq_ok hcheck
  rw [hagent] at hverify
  obtain ⟨hinbox, houtbox, _⟩ := covered actor agentId hactor hverify
  exact ⟨actor, hdoc, hurl, hinbox, houtbox, authorised_of_covered signs covered hactor hverify⟩

theorem history_rowAuthorised (signs : SignsOnly bridge.crypto agentId published)
    (covered : Meets (step bridge) (fun _ event => ContentsCovered bridge event) Store.empty
      events) :
    ∀ row ∈ (history bridge events).rows, RowAuthorised bridge agentId published row := by
  refine run_invariant (fun store => ∀ row ∈ store.rows, RowAuthorised bridge agentId published
    row) ?_ events Store.empty ?_ covered
  · intro store event held hevent
    exact step_rowAuthorised signs held hevent
  · intro row hrow
    cases hrow

theorem getActor_of_actorByAgent (h : store.actorByAgent agentId = some record) :
    getActor store record.handle none = .ok record.docJson := by
  unfold getActor
  rw [store.actorByHandle_of_mem (List.mem_of_find?_eq_some h)]
  rfl

/-- A request with a current document, or with one of another agent, leaves the handle and the
address of the agent as they are. -/
theorem step_actorByAgent (event : Event)
    (hrow : store.actorByAgent agentId = some record)
    (current : Current bridge agentId record event) :
    ∃ after, (step bridge store event).actorByAgent agentId = some after ∧
      after.handle = record.handle ∧ after.actorUrl = record.actorUrl := by
  cases event with
  | ownerScoped gate handle request nowMs fault => exact ⟨record, hrow, rfl, rfl⟩
  | register body nowMs fault =>
    rw [step_register]
    rcases register_store bridge store body nowMs fault with hsame | ⟨new, hcheck, hupsert⟩
    · rw [hsame]
      exact ⟨record, hrow, rfl, rfl⟩
    · rw [actorByAgent_upsert hupsert]
      split
      · rename_i hagent
        obtain ⟨actor, hactor, hverify, hhandle, hurl, _⟩ := checkRegistration_eq_ok hcheck
        obtain ⟨hid, hname⟩ := current actor hactor (hagent ▸ hverify)
        exact ⟨new, rfl, hhandle.trans hname, hurl.trans hid⟩
      · exact ⟨record, hrow, rfl, rfl⟩

theorem history_append (bridge : BridgeConfig) (early late : List Event) :
    history bridge (early ++ late) = run (step bridge) (history bridge early) late :=
  run_append ..

def aliceIdentity : ActorIdentity where
  handle := "alice"
  actorUrl := aliceUrl
  agentIdHex := agentOf [1]
  rsaPrivPem := ""
  spkiDer := [1, 2, 3]
  mlDsaAttestation := ⟨[1], [1]⟩
  mlDsaAttestationV2 := none
  iconUrl := none
  iconMediaType := none

theorem aliceIdentity_signsOnly :
    SignsOnly exampleBridge.crypto (agentOf [1]) [aliceIdentity] := by
  intro key message signature hkey hholds hattestation
  have hsigned := (idealCrypto_holds_iff.mp hholds).2
  simp only [exampleSigned, List.mem_cons, Prod.mk.injEq, List.not_mem_nil, or_false] at hsigned
  rcases hsigned with ⟨_, hinput⟩ | ⟨_, hfollow⟩ | ⟨hforeign, _⟩
  · rw [agentSignInput_injective hinput]
    decide +kernel
  · rw [agentSignInput_injective hfollow] at hattestation
    exact absurd hattestation (not_isAttestation_canonicalRequest _ _ _ _ _)
  · subst hforeign
    have hdistinct : deriveAgentId (idealCrypto []) [2] ≠ deriveAgentId (idealCrypto []) [1] := by
      decide +kernel
    exact absurd (hexId_injective hkey) hdistinct

theorem authorised_of_actorByAgent (signs : SignsOnly bridge.crypto agentId published)
    (covered : Meets (step bridge) (fun _ event => ContentsCovered bridge event) Store.empty
      events) (h : (history bridge events).actorByAgent agentId = some record) :
    ∃ actor : Actor, getActor (history bridge events) record.handle none = .ok actor.toJsonLd ∧
      record.actorUrl = actor.id.asStr ∧
      appendPath bridge.parsers actor.id "inbox" = .ok actor.inbox ∧
      appendPath bridge.parsers actor.id "outbox" = .ok actor.outbox ∧
      Authorised bridge.parsers published actor := by
  have hagent : record.agentId = agentId := by simpa using List.find?_some h
  obtain ⟨actor, hdoc, rest⟩ :=
    history_rowAuthorised signs covered record (List.mem_of_find?_eq_some h) hagent
  rw [getActor_of_actorByAgent h, hdoc]
  exact ⟨actor, rfl, rest⟩

/-- In every history of registrations whose contents are covered, the document served for an agent
carries the contents of an identity that the agent's holder published, and no request except one
with another document of the agent changes where the agent is found and messages to the agent
go. -/
theorem served_document_authorised (bridge : BridgeConfig) (agentId : String)
    (published : List ActorIdentity) (signs : SignsOnly bridge.crypto agentId published)
    (events : List Event)
    (covered : Meets (step bridge) (fun _ event => ContentsCovered bridge event) Store.empty
      events) :
    (∀ record, (history bridge events).actorByAgent agentId = some record →
      ∃ actor : Actor, getActor (history bridge events) record.handle none = .ok actor.toJsonLd ∧
        Authorised bridge.parsers published actor) ∧
    ∀ early event late, events = early ++ event :: late → ∀ record,
      (history bridge early).actorByAgent agentId = some record →
      Current bridge agentId record event →
      ∃ before after : Actor,
        getActor (history bridge early) record.handle none = .ok before.toJsonLd ∧
        getActor (step bridge (history bridge early) event) record.handle none =
          .ok after.toJsonLd ∧
        after.id.asStr = before.id.asStr ∧ after.inbox = before.inbox ∧
        after.outbox = before.outbox := by
  constructor
  · intro record h
    obtain ⟨actor, hserved, _, _, _, hauthorised⟩ := authorised_of_actorByAgent signs covered h
    exact ⟨actor, hserved, hauthorised⟩
  · intro early event late split record hrow current
    subst split
    have hsplit : early ++ event :: late = (early ++ [event]) ++ late := by simp
    have hlast : history bridge (early ++ [event]) = step bridge (history bridge early) event :=
      history_append ..
    obtain ⟨new, hnew, hhandle, hurl⟩ := step_actorByAgent event hrow current
    rw [← hlast] at hnew ⊢
    obtain ⟨before, hserved, hid, hinbox, houtbox, _⟩ :=
      authorised_of_actorByAgent signs ((meets_append ..).mp covered).1 hrow
    rw [hsplit] at covered
    obtain ⟨after, hserved', hid', hinbox', houtbox', _⟩ :=
      authorised_of_actorByAgent signs ((meets_append ..).mp covered).1 hnew
    -- the inbox and the outbox are read off the id, which is the same
    have hsame : after.id.asStr = before.id.asStr := hid'.symm.trans (hurl.trans hid)
    rw [appendPath_congr bridge.parsers _ hsame] at hinbox' houtbox'
    exact ⟨before, after, hserved, hhandle ▸ hserved', hsame,
      Except.ok.inj (hinbox'.symm.trans hinbox), Except.ok.inj (houtbox'.symm.trans houtbox)⟩

theorem served_document_authorised_alice :
    let again := (aliceActor aliceInbox none).toJsonLd
    let early : List Event := [.register again 0 none]
    let event : Event := .register again 1 none
    (∃ actor : Actor, getActor (history exampleBridge early) "alice" none = .ok actor.toJsonLd ∧
      Authorised exampleBridge.parsers [aliceIdentity] actor) ∧
    ∃ before after : Actor,
      getActor (history exampleBridge early) "alice" none = .ok before.toJsonLd ∧
      getActor (step exampleBridge (history exampleBridge early) event) "alice" none =
        .ok after.toJsonLd ∧
      after.id.asStr = before.id.asStr ∧ after.inbox = before.inbox ∧
      after.outbox = before.outbox := by
  intro again early event
  have hcovered (nowMs : Int) :
      ContentsCovered exampleBridge (.register again nowMs none) := by
    intro actor agentId hactor _
    rw [aliceActor_decodes] at hactor
    cases hactor
    refine ⟨?_, ?_, ?_⟩
    · decide +kernel
    · decide +kernel
    · intro v2 hv2
      cases hv2
  have hknown : ((history exampleBridge early).actorByAgent (agentOf [1])).map
      (fun record => (record.handle, record.actorUrl)) = some ("alice", aliceUrl.asStr) := by
    decide +kernel
  obtain ⟨record, hfound, hnames⟩ := Option.map_eq_some_iff.mp hknown
  have hhandle : record.handle = "alice" := congrArg Prod.fst hnames
  have hcovered' : Meets (step exampleBridge) (fun _ event => ContentsCovered exampleBridge event)
      Store.empty (early ++ [event]) := ⟨hcovered 0, hcovered 1, trivial⟩
  rw [← hhandle]
  constructor
  · exact (served_document_authorised exampleBridge (agentOf [1]) [aliceIdentity]
      aliceIdentity_signsOnly early ⟨hcovered 0, trivial⟩).1 record hfound
  · refine (served_document_authorised exampleBridge (agentOf [1]) [aliceIdentity]
      aliceIdentity_signsOnly (early ++ [event]) hcovered').2 early event [] rfl record hfound ?_
    intro actor hactor _
    rw [aliceActor_decodes] at hactor
    cases hactor
    exact ⟨(congrArg Prod.snd hnames).symm, hhandle.symm⟩

set_option maxRecDepth 10000 in
theorem mallory_rows : (history exampleBridge (aliceTwice malloryInbox none)).rows =
    [⟨agentOf [1], "alice", aliceUrl.asStr, (aliceActor malloryInbox none).toJsonLd, 1⟩] := by
  with_unfolding_all rfl

/-- Anyone may register the owner's public document again with another inbox, and the
bridge serves it. -/
theorem served_inbox_replaced :
    SignsOnly exampleBridge.crypto (agentOf [1]) [aliceIdentity] ∧
      getActor (history exampleBridge (aliceTwice malloryInbox none)) "alice" none =
        .ok (aliceActor malloryInbox none).toJsonLd ∧
      ¬ ∃ actor : Actor,
        getActor (history exampleBridge (aliceTwice malloryInbox none)) "alice" none =
          .ok actor.toJsonLd ∧ Authorised exampleBridge.parsers [aliceIdentity] actor := by
  have hserved : getActor (history exampleBridge (aliceTwice malloryInbox none)) "alice" none =
      .ok (aliceActor malloryInbox none).toJsonLd := by
    unfold getActor Store.actorByHandle
    rw [mallory_rows]
    rfl
  refine ⟨aliceIdentity_signsOnly, hserved, ?_⟩
  rintro ⟨actor, hdoc, identity, hidentity, minted, hminted, _, _, hmintedInbox, _⟩
  rw [hserved] at hdoc
  have hget := congrArg (fun doc => (doc.get "inbox").bind Value.asStr) (Except.ok.inj hdoc)
  simp only [toJsonLd_get_of_ne _ (show "inbox" ≠ "icon" by decide)
    (show "inbox" ≠ pqAttestationV2PropertyUri by decide)] at hget
  have hforeign : malloryInbox.asStr = actor.inbox.asStr := Option.some.inj hget
  cases List.mem_singleton.mp hidentity
  have hderived : appendPath exampleParsers aliceUrl "inbox" = .ok aliceInbox := by
    decide +kernel
  have houtbox : appendPath exampleParsers aliceUrl "outbox" = .ok aliceOutbox := by
    decide +kernel
  rw [show Actor.fromIdentity exampleBridge.parsers aliceIdentity = _ from
    fromIdentity_ok hderived houtbox] at hminted
  cases hminted
  rw [hmintedInbox] at hforeign
  exact absurd hforeign (by decide)

end Fetchit.Bridge
