import Fetchit.Lib.SortedMap
import Fetchit.Trust.Signing

/-! The state of the trust service: one sorted list per kind and the counter that versions them
all. -/
namespace Fetchit.Trust
open Lib

structure Snapshot where
  denylistXornames : SortedMap String DenylistEntry
  denylistAgents : SortedMap String DenylistEntry
  denylistRelayUrls : SortedMap String DenylistEntry
  denylistActorUrls : SortedMap String DenylistEntry
  etagSeq : Nat
  deriving DecidableEq

def Snapshot.default : Snapshot := ⟨.empty, .empty, .empty, .empty, 0⟩

def Snapshot.list (snapshot : Snapshot) : EntryKind → SortedMap String DenylistEntry
  | .xorName => snapshot.denylistXornames
  | .agentId => snapshot.denylistAgents
  | .relayUrl => snapshot.denylistRelayUrls
  | .actorUrl => snapshot.denylistActorUrls

def Snapshot.setList (snapshot : Snapshot) (kind : EntryKind)
    (list : SortedMap String DenylistEntry) : Snapshot :=
  match kind with
  | .xorName => { snapshot with denylistXornames := list }
  | .agentId => { snapshot with denylistAgents := list }
  | .relayUrl => { snapshot with denylistRelayUrls := list }
  | .actorUrl => { snapshot with denylistActorUrls := list }

@[simp] theorem list_setList (snapshot : Snapshot) (kind other : EntryKind)
    (list : SortedMap String DenylistEntry) :
    (snapshot.setList kind list).list other =
      if other = kind then list else snapshot.list other := by
  cases kind <;> cases other <;> rfl

def maxU64 : Nat := 2 ^ 64 - 1

def Snapshot.bump (snapshot : Snapshot) : Snapshot :=
  { snapshot with etagSeq := min (snapshot.etagSeq + 1) maxU64 }

@[simp] theorem list_bump (snapshot : Snapshot) (kind : EntryKind) :
    snapshot.bump.list kind = snapshot.list kind := by
  cases kind <;> rfl

def Snapshot.deny (snapshot : Snapshot) (entry : DenylistEntry) : Snapshot :=
  (snapshot.setList entry.target.kind
    ((snapshot.list entry.target.kind).insert entry.target.value entry)).bump

def Snapshot.allow (snapshot : Snapshot) (target : TargetIdentity) : Snapshot :=
  (snapshot.setList target.kind ((snapshot.list target.kind).erase target.value)).bump

def Snapshot.denylistFor (snapshot : Snapshot) (kind : EntryKind) : List DenylistEntry :=
  (snapshot.list kind).values

def etagText (seq : Nat) : String := "\"" ++ toString seq ++ "\""

def Snapshot.etag (snapshot : Snapshot) : String := etagText snapshot.etagSeq

theorem etagText_inj (h : etagText first = etagText second) :
    first = second := by
  simpa only [etagText, Nat.toString_eq_repr, String.append_left_inj, String.append_right_inj,
    Text.repr_inj] using h

def Snapshot.entry (snapshot : Snapshot) (target : TargetIdentity) : Option DenylistEntry :=
  (snapshot.list target.kind).get? target.value

/-- What an admin request changes. -/
inductive Change where
  | deny (entry : DenylistEntry)
  | revoke (target : TargetIdentity)
  deriving DecidableEq

def Change.target : Change → TargetIdentity
  | .deny entry => entry.target
  | .revoke target => target

def Change.leaves : Change → Option DenylistEntry
  | .deny entry => some entry
  | .revoke _ => none

def Snapshot.apply (snapshot : Snapshot) : Change → Snapshot
  | .deny entry => snapshot.deny entry
  | .revoke target => snapshot.allow target

theorem entry_apply (snapshot : Snapshot) (change : Change) (target : TargetIdentity) :
    (snapshot.apply change).entry target =
      if target = change.target then change.leaves else snapshot.entry target := by
  have split : ∀ own : TargetIdentity, target = own ↔
      target.kind = own.kind ∧ target.value = own.value := by
    intro own
    cases target
    cases own
    simp
  cases change with
  | deny entry =>
    simp only [Snapshot.apply, Snapshot.deny, Snapshot.entry, Change.target, Change.leaves, split]
    by_cases kind : target.kind = entry.target.kind
    · simp [kind]
    · simp [kind]
  | revoke own =>
    simp only [Snapshot.apply, Snapshot.allow, Snapshot.entry, Change.target, Change.leaves, split]
    by_cases kind : target.kind = own.kind
    · simp [kind]
    · simp [kind]

theorem etagSeq_apply (snapshot : Snapshot) (change : Change) :
    (snapshot.apply change).etagSeq = min (snapshot.etagSeq + 1) maxU64 := by
  cases change with
  | deny entry =>
    simp only [Snapshot.apply, Snapshot.deny, Snapshot.setList]
    split <;> rfl
  | revoke target =>
    simp only [Snapshot.apply, Snapshot.allow, Snapshot.setList]
    split <;> rfl

end Fetchit.Trust
