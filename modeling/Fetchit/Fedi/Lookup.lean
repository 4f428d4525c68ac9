import Fetchit.Fedi.Actor

/-! Lookup of remote actors. The id of a fetched document is bound to the address that served it:
an id that differs is trusted after one more fetch, at the id itself. -/
namespace Fetchit.Fedi
open Lib.Outcome Json

structure RemoteActor where
  id : Url
  inbox : Url
  rsaPublicKeyPem : Option String
  deriving DecidableEq

inductive FetchActorError where
  | http (status : Nat)
  | parse (error : ActorError)
  | idMismatch (fetchedFrom claimed : String)
  | other (reason : String)
  deriving DecidableEq

/-- A key whose owner is named must belong to the actor. -/
def remotePublicKey (value : Value) (idStr : String) : Except ActorError (Option String) :=
  match value.get "publicKey" with
  | none => .ok none
  | some publicKey => do
      checkOwner publicKey idStr
      .ok ((publicKey.get "publicKeyPem").bind Value.asStr)

def RemoteActor.fromJsonLd (parsers : Parsers) (value : Value) :
    Except ActorError RemoteActor := do
  checkType value
  let idStr ← requiredStr value "id"
  let id ← (parsers.parseUrl idStr).mapError (.invalidField "id")
  let inbox ← requiredUrl parsers value "inbox"
  let _ ← requiredStr value "preferredUsername"
  let rsaPublicKeyPem ← remotePublicKey value idStr
  let _ ← attestationV2 parsers value
  .ok ⟨id, inbox, rsaPublicKeyPem⟩

abbrev Fetch := Url → Except FetchActorError Value

def fetchRemoteActorOnce (parsers : Parsers) (fetch : Fetch) (actorUrl : Url) :
    Except FetchActorError RemoteActor := do
  let value ← fetch actorUrl
  (RemoteActor.fromJsonLd parsers value).mapError .parse

/-- The servers may answer the second fetch differently from the first. -/
def fetchRemoteActor (parsers : Parsers) (first second : Fetch) (actorUrl : Url) :
    Except FetchActorError RemoteActor := do
  let actor ← fetchRemoteActorOnce parsers first actorUrl
  if actor.id.asStr = actorUrl.asStr then .ok actor
  else
    let refetched ← fetchRemoteActorOnce parsers second actor.id
    if refetched.id.asStr = actor.id.asStr then .ok refetched
    else .error (.idMismatch actorUrl.asStr refetched.id.asStr)

def ServedBySelf (parsers : Parsers) (fetch : Fetch) (actor : RemoteActor) : Prop :=
  ∃ source value, source.asStr = actor.id.asStr ∧ fetch source = .ok value ∧
    RemoteActor.fromJsonLd parsers value = .ok actor

theorem fetchRemoteActorOnce_eq_ok (h : fetchRemoteActorOnce parsers fetch actorUrl = .ok actor)
    (same : actor.id.asStr = actorUrl.asStr) : ServedBySelf parsers fetch actor := by
  obtain ⟨value, fetched, decoded⟩ := bind_eq_ok.mp h
  exact ⟨actorUrl, value, same.symm, fetched, mapError_eq_ok.mp decoded⟩

theorem fetchRemoteActor_eq_ok (h : fetchRemoteActor parsers first second actorUrl = .ok actor) :
    ServedBySelf parsers first actor ∨ ServedBySelf parsers second actor := by
  obtain ⟨served, fetched, h⟩ := bind_eq_ok.mp h
  split at h
  · rename_i same
    cases h
    exact .inl (fetchRemoteActorOnce_eq_ok fetched same)
  · obtain ⟨refetched, again, h⟩ := bind_eq_ok.mp h
    split at h
    · rename_i same
      cases h
      exact .inr (fetchRemoteActorOnce_eq_ok again same)
    · cases h

end Fetchit.Fedi
