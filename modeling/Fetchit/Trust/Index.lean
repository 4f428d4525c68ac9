import Mathlib.Data.Finset.Dedup
import Mathlib.Data.Finset.SDiff
import Fetchit.Trust.Types

/-! The in-memory index of denylisted values, one set per kind. -/
namespace Fetchit.Trust
open Lib

structure DenylistIndexes where
  xorNames : Finset String
  agentIds : Finset String
  relayUrls : Finset String
  actorUrls : Finset String
  deriving DecidableEq

def DenylistIndexes.empty : DenylistIndexes := ⟨∅, ∅, ∅, ∅⟩

structure Delta where
  kind : EntryKind
  added : Finset String
  removed : Finset String
  deriving DecidableEq

def DenylistIndexes.bucket (indexes : DenylistIndexes) : EntryKind → Finset String
  | .xorName => indexes.xorNames
  | .agentId => indexes.agentIds
  | .relayUrl => indexes.relayUrls
  | .actorUrl => indexes.actorUrls

def DenylistIndexes.setBucket (indexes : DenylistIndexes) (kind : EntryKind)
    (values : Finset String) : DenylistIndexes :=
  match kind with
  | .xorName => { indexes with xorNames := values }
  | .agentId => { indexes with agentIds := values }
  | .relayUrl => { indexes with relayUrls := values }
  | .actorUrl => { indexes with actorUrls := values }

@[simp] theorem bucket_setBucket (indexes : DenylistIndexes) (kind other : EntryKind)
    (values : Finset String) : (indexes.setBucket kind values).bucket other =
      if other = kind then values else indexes.bucket other := by
  cases kind <;> cases other <;> rfl

def lowered (values : List String) : Finset String := (values.map Text.asciiLower).toFinset

def DenylistIndexes.replace (indexes : DenylistIndexes) (kind : EntryKind)
    (values : List String) : Delta × DenylistIndexes :=
  (⟨kind, lowered values \ indexes.bucket kind, indexes.bucket kind \ lowered values⟩,
    indexes.setBucket kind (lowered values))

def DenylistIndexes.isBlocked (indexes : DenylistIndexes) (kind : EntryKind) (value : String) :
    Bool :=
  Text.asciiLower value ∈ indexes.bucket kind

theorem isBlocked_replace (indexes : DenylistIndexes) (kind : EntryKind) (values : List String)
    (value : String) : (indexes.replace kind values).2.isBlocked kind value = true ↔
      Text.asciiLower value ∈ values.map Text.asciiLower := by
  simp [DenylistIndexes.isBlocked, DenylistIndexes.replace, lowered]

end Fetchit.Trust
