import Fetchit.Lib.Outcome
import Fetchit.Lib.Scan

/-! What the trust service lists: identities of four kinds, each with a canonical text, and the
signed response that publishes the entries of one kind. -/
namespace Fetchit.Trust
open Lib Lib.Outcome

inductive EntryKind where
  | xorName
  | agentId
  | relayUrl
  | actorUrl
  deriving DecidableEq

structure TargetIdentity where
  kind : EntryKind
  value : String
  deriving DecidableEq

def maxUrlValueLen : Nat := 512

def afterScheme (value : String) : String :=
  match Scan.splitOnce value "://" with
  | some (_, rest) => rest
  | none => value

def containsChar (text : String) (c : Char) : Bool := text.toList.contains c

/-- The value without the trailing slash that canonicalising strips; the slash of a host root is
not one. -/
def strippedSlash (value : String) : Option String :=
  (Scan.stripEnd value "/").filter fun rest => containsChar (afterScheme rest) '/'

def canonicalizeUrlValue (value : String) : Except String String := do
  require (value.utf8ByteSize ≤ maxUrlValueLen) "URL value exceeds MAX_URL_VALUE_LEN"
  require (!containsChar (afterScheme value) '@') "URL value must not contain userinfo (`@`)"
  require (!containsChar (afterScheme value) '?')
    "URL value must not contain a query string (`?`)"
  require (!containsChar (afterScheme value) '#') "URL value must not contain a fragment (`#`)"
  .ok ((strippedSlash value).getD value)

def TargetIdentity.tryNew (kind : EntryKind) (value : String) : Except String TargetIdentity := do
  let lower := Text.asciiLower value
  match kind with
  | .xorName | .agentId => do
      require (lower.utf8ByteSize == 64 && lower.toList.all Text.isHexDigit)
        "XorName/AgentId require 64-char lowercase hex"
      .ok ⟨kind, lower⟩
  | .relayUrl => do
      require (Text.startsWith lower "wss://") "RelayUrl must be wss://"
      let canonical ← canonicalizeUrlValue lower
      .ok ⟨kind, canonical⟩
  | .actorUrl => do
      require (Text.startsWith lower "https://") "ActorUrl must be https://"
      let canonical ← canonicalizeUrlValue lower
      .ok ⟨kind, canonical⟩

variable {rest value : String}

theorem asciiLower_of_front (tail : String) (lower : Text.asciiLower text = text)
    (split : rest.toList ++ tail.toList = text.toList) : Text.asciiLower rest = rest := by
  have chars : text.toList.map Char.toLower = text.toList := by
    have same := congrArg String.toList lower
    rwa [Text.asciiLower, String.toList_ofList] at same
  rw [← split, List.map_append] at chars
  have front := List.append_inj_left chars (List.length_map _)
  unfold Text.asciiLower
  rw [front, String.ofList_toList]

theorem strippedSlash_append (h : strippedSlash value = some rest) :
    rest.toList ++ ['/'] = value.toList := by
  obtain ⟨found, _⟩ := Option.filter_eq_some_iff.mp h
  exact Scan.stripEnd_eq_some.mp found

theorem strippedSlash_ne (h : strippedSlash value = some rest) :
    rest ≠ value := by
  intro same
  have split := strippedSlash_append h
  rw [same] at split
  have length := congrArg List.length split
  simp at length

theorem asciiLower_canonical (value : String) :
    let canonical := (strippedSlash (Text.asciiLower value)).getD (Text.asciiLower value)
    Text.asciiLower canonical = canonical := by
  cases stripped : strippedSlash (Text.asciiLower value) with
  | none => exact Text.asciiLower_asciiLower value
  | some rest =>
    exact asciiLower_of_front "/" (Text.asciiLower_asciiLower value) (strippedSlash_append stripped)

theorem tryNew_actorUrl (h : TargetIdentity.tryNew .actorUrl value = .ok target) :
    target.kind = .actorUrl ∧ target.value =
      (strippedSlash (Text.asciiLower value)).getD (Text.asciiLower value) := by
  simp only [TargetIdentity.tryNew, canonicalizeUrlValue, bind_eq_ok] at h
  obtain ⟨_, _, canonical, ⟨_, _, _, _, _, _, _, _, found⟩, h⟩ := h
  cases h
  exact ⟨rfl, (Except.ok.inj found).symm⟩

theorem tryNew_actorUrl_lower (h : TargetIdentity.tryNew .actorUrl value = .ok target) :
    Text.asciiLower target.value = target.value := by
  rw [(tryNew_actorUrl h).2]
  exact asciiLower_canonical value

inductive ReportKind where
  | csam
  | violenceThreat
  | harassment
  | spam
  | doxxing
  | abusiveContent
  | other
  deriving DecidableEq

structure DenylistEntry where
  target : TargetIdentity
  addedAtMs : Nat
  reason : ReportKind
  deriving DecidableEq

structure DenylistResponse where
  etag : String
  generatedAtMs : Nat
  kind : EntryKind
  entries : List DenylistEntry
  issuerSignatureHex : String
  issuerKeyId : String
  deriving DecidableEq

end Fetchit.Trust
