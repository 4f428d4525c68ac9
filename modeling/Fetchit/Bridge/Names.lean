import Fetchit.Lib.Scan
import Fetchit.Bridge.Ownership

/-! The names that a bridge gives out. A handle is checked for its characters and against the
reserved list, the address of the actor piece by piece, and the table keeps handles apart letter
by letter. -/
namespace Fetchit.Bridge
open Lib Lib.Outcome Lib.Run Proto.Identity Fedi Fedi.Json

def defaultReservedHandles : List String :=
  ["etchit", "fetchit", "admin", "administrator", "root", "support", "help", "abuse", "security",
    "postmaster", "webmaster", "hostmaster", "info", "contact", "mod", "moderator", "official",
    "system", "bridge", "api", "www", "noreply", "no-reply"]

def loadReservedHandles (extra : Option String) : List String :=
  defaultReservedHandles ++ match extra with
    | none => []
    | some extra => (((Text.splitChars ',' extra.toList).map fun part =>
      Text.trim (String.ofList part)).filter fun name => !name.isEmpty).map Text.asciiLower

theorem loadReservedHandles_lower (extra : Option String) :
    ∀ name ∈ loadReservedHandles extra, Text.asciiLower name = name := by
  have lower : ∀ name ∈ defaultReservedHandles, Text.asciiLower name = name := by decide +kernel
  intro name mem
  rcases List.mem_append.mp mem with built | added
  · exact lower name built
  · cases extra with
    | none => cases added
    | some extra =>
      obtain ⟨part, _, rfl⟩ := List.mem_map.mp added
      exact Text.asciiLower_asciiLower part

structure Jrd where
  subject : String
  rel : String
  linkType : String
  href : String
  deriving DecidableEq

def parseAcct (resource : String) : Option (String × String) := do
  let rest ← Scan.stripStart resource "acct:"
  let (handle, domain) ← Scan.splitOnce rest "@"
  if handle.isEmpty || domain.isEmpty then none else some (handle, domain)

def webfinger (bridge : BridgeConfig) (store : Store) (resource : String)
    (fault : Option String) : Except Response Jrd := do
  let (handle, domain) ← okOr (parseAcct resource)
    ⟨400, "resource must be acct:<handle>@<domain>"⟩
  require (Text.eqIgnoreAsciiCase domain bridge.domain) ⟨404, "unknown domain"⟩
  let record ← Gate.findRecord ⟨⟨404, "no such actor"⟩, ⟨500, "store error"⟩⟩ store handle fault
  .ok ⟨"acct:" ++ handle ++ "@" ++ bridge.domain, "self", "application/activity+json",
    record.actorUrl⟩

def canonicalActorUrl (domain handle : String) : String :=
  "https://" ++ domain ++ "/actors/" ++ handle

/-- A web address of nothing but scheme, host and path, its host in lower case. -/
structure Bare (url : Url) : Prop where
  spelled : url.asStr = url.scheme ++ "://" ++ url.hostStr.getD "" ++ url.path
  host : ∀ host ∈ url.hostStr, Text.asciiLower host = host

/-- The handle is in lower case, and the address has no user, query or fragment. -/
def Plain (bridge : BridgeConfig) : Event → Prop
  | .register body _ _ => ∀ actor, Actor.fromJsonLd bridge.parsers body = .ok actor →
      Text.asciiLower actor.preferredUsername = actor.preferredUsername ∧ Bare actor.id
  | .ownerScoped _ _ _ _ _ => True

variable {bridge : BridgeConfig}

theorem checkRegistration_names (h : checkRegistration bridge body nowMs = .ok record) :
    ∃ actor, Actor.fromJsonLd bridge.parsers body = .ok actor ∧
      record.handle = actor.preferredUsername ∧ record.actorUrl = actor.id.asStr ∧
      bridge.reservedHandles.contains (Text.asciiLower record.handle) = false ∧
      idOk bridge actor.id record.handle = true := by
  simp only [checkRegistration, bind_eq_ok, mapError_eq_ok, require_eq_ok] at h
  obtain ⟨actor, decoded, agentId, _, _, _, _, free, _, placed, h⟩ := h
  cases h
  exact ⟨actor, decoded, rfl, rfl, by simpa using free, placed⟩

theorem asStr_of_idOk {id : Url} {handle : String}
    (domain : Text.asciiLower bridge.domain = bridge.domain) (bare : Bare id)
    (ok : idOk bridge id handle = true) : id.asStr = canonicalActorUrl bridge.domain handle := by
  unfold idOk at ok
  simp only [Bool.and_eq_true, beq_iff_eq] at ok
  obtain ⟨⟨⟨scheme, _⟩, host⟩, path⟩ := ok
  cases named : id.hostStr with
  | none =>
    rw [named] at host
    cases host
  | some name =>
    rw [named] at host
    have same : name = bridge.domain := by
      rw [← bare.host name named, ← domain]
      exact eq_of_beq host
    have placed : id.path = "/actors/" ++ handle := path
    rw [bare.spelled, scheme, placed, named, same]
    apply String.toList_inj.mp
    simp [canonicalActorUrl]

def NamedPlainly (bridge : BridgeConfig) (row : ActorRecord) : Prop :=
  Text.asciiLower row.handle = row.handle ∧
    bridge.reservedHandles.contains (Text.asciiLower row.handle) = false ∧
    row.actorUrl = canonicalActorUrl bridge.domain row.handle

theorem namedPlainly_history (domain : Text.asciiLower bridge.domain = bridge.domain)
    (plain : Meets (step bridge) (fun _ event => Plain bridge event) Store.empty events) :
    ∀ row ∈ (history bridge events).rows, NamedPlainly bridge row := by
  refine run_invariant (fun store => ∀ row ∈ store.rows, NamedPlainly bridge row) ?_ events
    Store.empty ?_ plain
  · intro store event held plain
    apply step_rows held
    rintro body nowMs fault record rfl accepted
    obtain ⟨actor, decoded, handle, url, free, placed⟩ := checkRegistration_names accepted
    obtain ⟨lower, bare⟩ := plain actor decoded
    refine ⟨?_, free, ?_⟩
    · rw [handle]
      exact lower
    · rw [url]
      exact asStr_of_idOk domain bare placed
  · intro row mem
    cases mem

/-- Whoever registers what, no handle that the bridge gives out is a reserved name in any spelling:
neither a built-in one nor one that the operator has added. -/
theorem reserved_handles_refused (bridge : BridgeConfig) (extra : Option String)
    (events : List Event) :
    let config := { bridge with reservedHandles := loadReservedHandles extra }
    (history config events).rows.Forall fun row => ∀ name ∈ loadReservedHandles extra,
      Text.eqIgnoreAsciiCase row.handle name = false := by
  intro config
  rw [List.forall_iff_forall_mem]
  refine run_keeps (fun store : Store => ∀ row ∈ store.rows, ∀ name ∈ loadReservedHandles extra,
    Text.eqIgnoreAsciiCase row.handle name = false) ?_ events (nofun)
  intro store event held
  apply step_rows held
  rintro body nowMs fault record rfl accepted name listed
  obtain ⟨_, _, _, _, free, _⟩ := checkRegistration_names accepted
  rw [← Bool.not_eq_true]
  intro same
  rw [(eq_of_beq same).trans (loadReservedHandles_lower extra name listed)] at free
  simp [config, listed] at free

/-- What names the bridge gives out: no two handles differ in letter case alone, none is reserved,
and an actor's address is the canonical one. -/
structure Unambiguous (bridge : BridgeConfig) (store : Store) : Prop where
  apart : ∀ first ∈ store.rows, ∀ second ∈ store.rows,
    Text.eqIgnoreAsciiCase first.handle second.handle = true → first = second
  unreserved : ∀ row ∈ store.rows, ∀ name ∈ bridge.reservedHandles,
    Text.eqIgnoreAsciiCase row.handle name = false
  canonical : ∀ row ∈ store.rows, row.actorUrl = canonicalActorUrl bridge.domain row.handle
  resolved : ∀ resource fault jrd, webfinger bridge store resource fault = .ok jrd →
    ∃ handle, jrd.subject = "acct:" ++ handle ++ "@" ++ bridge.domain ∧
      jrd.href = canonicalActorUrl bridge.domain handle

theorem webfinger_eq_ok (h : webfinger bridge store resource fault = .ok jrd) :
    ∃ row ∈ store.rows, jrd.subject = "acct:" ++ row.handle ++ "@" ++ bridge.domain ∧
      jrd.href = row.actorUrl := by
  unfold webfinger at h
  simp only [bind_eq_ok] at h
  obtain ⟨⟨handle, domain⟩, _, _, _, record, found, h⟩ := h
  cases h
  have row := findRecord_eq_ok found
  have handle' : record.handle = handle := by simpa using List.find?_some row
  exact ⟨record, List.mem_of_find?_eq_some row, by rw [handle'], rfl⟩

/-- Names are unambiguous as long as handles are in lower case and addresses have no user, query
or fragment. -/
theorem names_unambiguous_of_plain (bridge : BridgeConfig)
    (domain : Text.asciiLower bridge.domain = bridge.domain)
    (reserved : ∀ name ∈ bridge.reservedHandles, Text.asciiLower name = name)
    (events : List Event) (plain : ∀ event ∈ events, Plain bridge event) :
    Unambiguous bridge (history bridge events) := by
  have named := namedPlainly_history domain
    (meets_of_forall (fun event mem _ => plain event mem) Store.empty)
  constructor
  · intro first mem second mem' same
    apply (history bridge events).eq_of_handle_eq mem mem'
    rw [← (named first mem).1, ← (named second mem').1]
    exact eq_of_beq same
  · intro row mem name listed
    rw [← Bool.not_eq_true]
    intro same
    have lowered : Text.asciiLower row.handle = name :=
      (eq_of_beq same).trans (reserved name listed)
    have free := (named row mem).2.1
    rw [lowered] at free
    simp [listed] at free
  · intro row mem
    exact (named row mem).2.2
  · intro resource fault jrd answered
    obtain ⟨row, mem, subject, href⟩ := webfinger_eq_ok answered
    exact ⟨row.handle, subject, href.trans (named row mem).2.2⟩

/-! Agents whose handles differ in letter case, one of them with a query in its address, and one
whose handle is another word. -/

def lowerUrl : Url := ⟨"https://b/actors/a", "https", some "b", none, "/actors/a"⟩

def queryUrl : Url := ⟨"https://b/actors/A?x", "https", some "b", none, "/actors/A"⟩

def wordUrl : Url := ⟨"https://b/actors/c", "https", some "b", none, "/actors/c"⟩

def boxUrl : Url := ⟨"https://b/i", "https", some "b", none, "/i"⟩

def namesParsers : Parsers where
  parseUrl text := okOr ([lowerUrl, queryUrl, wordUrl, boxUrl].find? (·.asStr == text)) ""
  base64Error _ := ""
  structError _ := ""

def namesInput (handle : String) (url : Url) (key : Bytes) : Bytes :=
  (Attestation.signingInput handle url (agentOf key) [1, 2, 3]).toOption.getD []

def namesBridge : BridgeConfig :=
  ⟨idealCrypto [([1], agentSignInput (namesInput "a" lowerUrl [1])),
    ([2], agentSignInput (namesInput "A" queryUrl [2])),
    ([2], agentSignInput (namesInput "c" wordUrl [2]))], namesParsers, "b", ["admin"]⟩

def namesActor (handle : String) (url : Url) (key : Bytes) : Actor where
  id := url
  preferredUsername := handle
  inbox := boxUrl
  outbox := boxUrl
  rsaPublicKeyPem := alicePem
  mlDsaAttestation := ⟨key, key⟩
  mlDsaAttestationV2 := none
  iconUrl := none
  iconMediaType := none

def namesRun : List Event :=
  [.register (namesActor "a" lowerUrl [1]).toJsonLd 0 none,
    .register (namesActor "A" queryUrl [2]).toJsonLd 0 none]

theorem plain_register {actor : Actor} {host : String}
    (decoded : Actor.fromJsonLd bridge.parsers actor.toJsonLd = .ok actor)
    (lower : Text.asciiLower actor.preferredUsername = actor.preferredUsername)
    (named : actor.id.hostStr = some host) (lowerHost : Text.asciiLower host = host)
    (spelled : actor.id.asStr = actor.id.scheme ++ "://" ++ host ++ actor.id.path) :
    Plain bridge (.register actor.toJsonLd 0 none) := by
  intro actor' decoded'
  rw [decoded] at decoded'
  cases decoded'
  refine ⟨lower, by rw [named]; exact spelled, fun host' named' => ?_⟩
  rw [named] at named'
  cases named'
  exact lowerHost

theorem two_named_plainly :
    let events : List Event := [.register (namesActor "a" lowerUrl [1]).toJsonLd 0 none,
      .register (namesActor "c" wordUrl [2]).toJsonLd 0 none]
    (history namesBridge events).rows.map ActorRecord.handle = ["a", "c"] ∧
      Unambiguous namesBridge (history namesBridge events) := by
  refine ⟨by decide +kernel, names_unambiguous_of_plain namesBridge (by decide +kernel)
    (by decide +kernel) _ ?_⟩
  intro event mem
  simp only [List.mem_cons, List.not_mem_nil, or_false] at mem
  rcases mem with rfl | rfl
  · exact plain_register (by decide +kernel) (by decide +kernel) rfl (by decide +kernel)
      (by decide +kernel)
  · exact plain_register (by decide +kernel) (by decide +kernel) rfl (by decide +kernel)
      (by decide +kernel)

/-- Both are registered, and the address served for the second carries its query. -/
theorem look_alikes_registered :
    let store := history namesBridge namesRun
    store.rows.map ActorRecord.handle = ["a", "A"] ∧
      webfinger namesBridge store "acct:A@b" none =
        .ok ⟨"acct:" ++ "A" ++ "@" ++ "b", "self", "application/activity+json",
          "https://b/actors/A?x"⟩ := by
  decide +kernel

end Fetchit.Bridge
