import Fetchit.Chat.Types
import Fetchit.Lib.Run
import Fetchit.Proto.PairRecord

/-! The cached device list of a contact. Resolving it compares the fetched record with the one
loaded before the fetch and then saves; a pushed record goes through the same gate. The two may
run at the same time on one file. -/
namespace Fetchit.Chat
open Lib Lib.Outcome Lib.Run Proto.PairRecord Function

abbrev ContactCache := String → Option PairRecordV4

def isUserIdHex (userIdHex : String) : Bool :=
  userIdHex.utf8ByteSize == 64 && (utf8 userIdHex).all isLowerHexByte

def loadContactPairRecordV4 (cache : ContactCache) (userIdHex : String) :
    Except ChatError (Option PairRecordV4) := do
  require (isUserIdHex userIdHex) (.invalid "user id is not 64-hex")
  .ok (cache userIdHex)

def saveContactPairRecordV4 (cache : ContactCache) (record : PairRecordV4) :
    Except ChatError ContactCache := do
  require (isUserIdHex record.userIdHex) (.invalid "record user id is not 64-hex")
  .ok (update cache record.userIdHex (some record))

def lastSeen (cached : Option PairRecordV4) : Nat := cached.elim 0 (·.revision)

def acceptable (verifier : Verifier) (userIdHex : String) (cached : Option PairRecordV4)
    (record : PairRecordV4) : Bool :=
  record.userIdHex == userIdHex && (verifyPairRecordV4 verifier record).isOk &&
    decide (record.revision > lastSeen cached)

def resolveFetched (verifier : Verifier) (cache : ContactCache) (userIdHex : String)
    (cached : Option PairRecordV4) (fetched : Except ChatError (Option PairRecordV4)) :
    Except ChatError (Option PairRecordV4) × ContactCache :=
  match fetched with
  | .ok (some record) =>
    if acceptable verifier userIdHex cached record then
      match saveContactPairRecordV4 cache record with
      | .ok saved => (.ok (some record), saved)
      | .error error => (.error error, cache)
    else (.ok cached, cache)
  | .ok none => (.ok cached, cache)
  | .error _ => (.ok cached, cache)

def acceptLoaded (verifier : Verifier) (cache : ContactCache) (userIdHex : String)
    (cached : Option PairRecordV4) (record : PairRecordV4) :
    Except ChatError (Option (Option PairRecordV4 × PairRecordV4)) × ContactCache :=
  if acceptable verifier userIdHex cached record then
    match saveContactPairRecordV4 cache record with
    | .ok saved => (.ok (some (cached, record)), saved)
    | .error error => (.error error, cache)
  else (.ok none, cache)

/-- What either path can do to the cache: nothing, or save a record that passed the gate. -/
inductive GateSpec (verifier : Verifier) (cache : ContactCache) (userIdHex : String)
    (cached : Option PairRecordV4) (offered : Option PairRecordV4) : ContactCache → Prop
  | kept : GateSpec verifier cache userIdHex cached offered cache
  | saved (record : PairRecordV4) (offer : offered = some record)
      (pass : acceptable verifier userIdHex cached record = true)
      (owner : record.userIdHex = userIdHex) (newer : lastSeen cached < record.revision) :
      GateSpec verifier cache userIdHex cached offered
        (update cache userIdHex (some record))

theorem acceptable_iff : acceptable verifier userIdHex cached record = true ↔
      record.userIdHex = userIdHex ∧ (verifyPairRecordV4 verifier record).isOk = true ∧
        lastSeen cached < record.revision := by
  simp [acceptable, and_assoc]

theorem saved_spec {cache saved : ContactCache}
    (pass : acceptable verifier userIdHex cached record = true)
    (h : saveContactPairRecordV4 cache record = .ok saved) :
    GateSpec verifier cache userIdHex cached (some record) saved := by
  unfold saveContactPairRecordV4 at h
  simp only [bind_eq_ok, Except.ok.injEq] at h
  obtain ⟨_, _, rfl⟩ := h
  obtain ⟨owner, _, newer⟩ := acceptable_iff.mp pass
  rw [owner]
  exact .saved record rfl pass owner newer

section
variable (verifier : Verifier) (cache : ContactCache) (userIdHex : String)
  (cached : Option PairRecordV4)

theorem acceptLoaded_spec (record : PairRecordV4) :
    GateSpec verifier cache userIdHex cached (some record)
      (acceptLoaded verifier cache userIdHex cached record).2 := by
  unfold acceptLoaded
  split
  · rename_i pass
    split
    · rename_i saved outcome
      exact saved_spec pass outcome
    · exact .kept
  · exact .kept

theorem resolveFetched_spec (fetched : Except ChatError (Option PairRecordV4)) :
    GateSpec verifier cache userIdHex cached (fetched.toOption.join)
      (resolveFetched verifier cache userIdHex cached fetched).2 := by
  unfold resolveFetched
  split
  · split
    · rename_i pass
      split
      · rename_i saved outcome
        exact saved_spec pass outcome
      · exact .kept
    · exact .kept
  · exact .kept
  · exact .kept

end

/-- The cache directory, and the calls that have loaded a contact's record. -/
structure ContactStore where
  cache : ContactCache
  loaded : Nat → Option (String × Option PairRecordV4)

namespace ContactStore

def start (cache : ContactCache) : ContactStore := ⟨cache, fun _ => none⟩

/-- Both paths begin with the same load. -/
inductive Event where
  | load (call : Nat) (userIdHex : String)
  | fetched (call : Nat) (answer : Except ChatError (Option PairRecordV4))
  | pushed (call : Nat) (record : PairRecordV4)

def step (verifier : Verifier) (store : ContactStore) : Event → ContactStore
  | .load call userIdHex =>
    { store with
      loaded := update store.loaded call
        ((loadContactPairRecordV4 store.cache userIdHex).toOption.map fun cached =>
          (userIdHex, cached)) }
  | .fetched call answer =>
    match store.loaded call with
    | none => store
    | some (userIdHex, cached) =>
      ⟨(resolveFetched verifier store.cache userIdHex cached answer).2,
        update store.loaded call none⟩
  | .pushed call record =>
    match store.loaded call with
    | none => store
    | some (userIdHex, cached) =>
      ⟨(acceptLoaded verifier store.cache userIdHex cached record).2,
        update store.loaded call none⟩

def offer : Event → Option (Nat × PairRecordV4)
  | .load _ _ => none
  | .fetched call answer => answer.toOption.join.map fun record => (call, record)
  | .pushed call record => some (call, record)

def StillLoaded (verifier : Verifier) (store : ContactStore) (event : Event) : Prop :=
  ∀ offered ∈ offer event, ∀ found ∈ store.loaded offered.1,
    acceptable verifier found.1 found.2 offered.2 = true → store.cache found.1 = found.2

instance (verifier : Verifier) (store : ContactStore) (event : Event) :
    Decidable (store.StillLoaded verifier event) :=
  inferInstanceAs (Decidable (∀ offered ∈ offer event, _))

def AtLeast (userIdHex : String) (revision : Nat) (store : ContactStore) : Prop :=
  ∃ record, store.cache userIdHex = some record ∧ revision ≤ record.revision

theorem atLeast_gate {cache : ContactCache} (held : AtLeast contact revision store)
    (spec : GateSpec verifier store.cache userIdHex cached offered cache)
    (still : ∀ record, offered = some record →
      acceptable verifier userIdHex cached record = true → store.cache userIdHex = cached) :
    ∃ record, cache contact = some record ∧ revision ≤ record.revision := by
  cases spec with
  | kept => exact held
  | saved record offer pass owner newer =>
    obtain ⟨current, stored, le⟩ := held
    by_cases same : contact = userIdHex
    · subst same
      have loaded := still record offer pass
      rw [stored] at loaded
      subst loaded
      refine ⟨record, by simp, ?_⟩
      simp only [lastSeen, Option.elim_some] at newer
      omega
    · exact ⟨current, by simpa [same] using stored, le⟩

theorem step_atLeast (held : AtLeast contact revision store)
    (still : store.StillLoaded verifier event) :
    AtLeast contact revision (step verifier store event) := by
  cases event with
  | load call userIdHex => exact held
  | fetched call answer =>
    simp only [step]
    split
    · exact held
    · rename_i userIdHex cached found
      refine atLeast_gate held (resolveFetched_spec verifier store.cache userIdHex cached answer)
        fun record offered pass => ?_
      exact still (call, record) (by simp [offer, offered]) (userIdHex, cached) found pass
  | pushed call record =>
    simp only [step]
    split
    · exact held
    · rename_i userIdHex cached found
      refine atLeast_gate held (acceptLoaded_spec verifier store.cache userIdHex cached record)
        fun other offered pass => ?_
      cases offered
      exact still (call, record) rfl (userIdHex, cached) found pass

/-- Along every run in which a call saves only over the record it loaded, the cached revision of
a contact never decreases. -/
theorem cached_revision_never_decreases (verifier : Verifier) (cache : ContactCache)
    (before after : List Event)
    (still : Meets (step verifier) (StillLoaded verifier) (start cache) (before ++ after))
    (contact : String) (record : PairRecordV4)
    (cached : (run (step verifier) (start cache) before).cache contact = some record) :
    ∃ later, (run (step verifier) (start cache) (before ++ after)).cache contact = some later ∧
      record.revision ≤ later.revision := by
  rw [run_append]
  exact run_invariant (AtLeast contact record.revision) (fun _ _ => step_atLeast) after _
    ⟨record, cached, le_rfl⟩ ((meets_append _ _ _).mp still).2

/-- A push and then a resolve of the zero account, one after the other. -/
theorem cached_revision_kept_in_sequence :
    ∃ later, (run (step acceptAllVerifier) (start fun _ => none)
      ([.load 0 zeroId, .pushed 0 (zeroPairRecordV4 2 5)] ++
        [.load 1 zeroId, .fetched 1 (.ok (some (zeroPairRecordV4 3 6)))])).cache zeroId =
          some later ∧ 2 ≤ later.revision :=
  cached_revision_never_decreases acceptAllVerifier (fun _ => none)
    [Event.load 0 zeroId, .pushed 0 (zeroPairRecordV4 2 5)]
    [Event.load 1 zeroId, .fetched 1 (.ok (some (zeroPairRecordV4 3 6)))]
    (by decide +kernel) zeroId (zeroPairRecordV4 2 5) (by decide +kernel)

/-- While a resolve waits for its fetch, a push caches revision 3; the fetched revision 2 is
above what the resolve had loaded and replaces it. -/
theorem resolve_rolls_back_push :
    let during := run (step acceptAllVerifier) (start fun _ => none)
      [.load 0 zeroId, .load 1 zeroId, .pushed 1 (zeroPairRecordV4 3 6)]
    during.cache zeroId = some (zeroPairRecordV4 3 6) ∧
    (step acceptAllVerifier during (.fetched 0 (.ok (some (zeroPairRecordV4 2 5))))).cache
      zeroId = some (zeroPairRecordV4 2 5) := by
  decide +kernel

end ContactStore

end Fetchit.Chat
