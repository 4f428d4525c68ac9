import Fetchit.Lib.Run
import Fetchit.Lib.WriteThrough
import Fetchit.Chat.DirectMessage

/-! Concurrent calls of the registry. A mutating call holds the lock of the cache from the lookup
to the write. A lookup and a scan hold it only while they touch the cache, and read the files in
between. A schedule says whose turn it is at every step, and a plain store on which the mutating
calls act one after another says what the registry should hold. -/
namespace Fetchit.Chat
open Lib Lib.Run Function Registry

namespace Registry

def slot (reg : Registry) (groupIdHex : String) : Slot Conversation :=
  match reg.conversations.lookup groupIdHex with
  | none => .absent
  | some (.error _) => .broken
  | some (.ok conv) => .holds conv

def cell (reg : Registry) (groupIdHex : String) : Cell Conversation :=
  ⟨reg.byGroupId.lookup groupIdHex, reg.slot groupIdHex⟩

def sealed {α : Type} (fault : Option ChatError)
    (mutate : Conversation → MutateAction α × Conversation) (conv : Conversation) :
    Option Conversation :=
  match fault, mutate conv with
  | none, (.persist _, conv') => some conv'
  | _, _ => none

theorem slot_eq_holds {reg : Registry} :
    reg.slot groupIdHex = .holds conv ↔ reg.onDisk groupIdHex = some conv := by
  rw [onDisk_eq_some]
  unfold slot
  split <;> simp_all

section
variable (reg : Registry) (groupIdHex : String) (conv : Conversation)

theorem cell_enter :
    (reg.enter groupIdHex conv).cell =
      update reg.cell groupIdHex ((reg.cell groupIdHex).fill conv) := by
  funext query
  by_cases same : query = groupIdHex
  · subst same
    simp [cell, enter, cacheInsert, refreshPubkeyCache, Cell.fill, slot]
  · simp [cell, enter, cacheInsert, refreshPubkeyCache, slot, same]

theorem cell_writeBack :
    (reg.writeBack groupIdHex conv).cell =
      update reg.cell groupIdHex ⟨some conv, .holds conv⟩ := by
  funext query
  by_cases same : query = groupIdHex
  · subst same
    simp [cell, writeBack, cacheInsert, sealFile, slot]
  · simp [cell, writeBack, cacheInsert, sealFile, slot, same]

end

inductive HydrateSpec (reg : Registry) (groupIdHex : String) (missing : Option Conversation) :
    Except ChatError Conversation × Registry → Prop
  | failed (error : ChatError) (nothing : (reg.cell groupIdHex).base missing = none) :
      HydrateSpec reg groupIdHex missing (.error error, reg)
  | hydrated (conv : Conversation) (after : Registry)
      (started : (reg.cell groupIdHex).base missing = some conv)
      (filled : after.cell =
        update reg.cell groupIdHex ((reg.cell groupIdHex).fill conv)) :
      HydrateSpec reg groupIdHex missing (.ok conv, after)

theorem hydrate_spec (reg : Registry) (groupIdHex : String)
    (missing : Except ChatError Conversation) :
    HydrateSpec reg groupIdHex missing.toOption (reg.hydrate groupIdHex missing) := by
  unfold hydrate
  cases cached : reg.byGroupId.lookup groupIdHex with
  | some conv =>
    refine .hydrated conv reg (by simp [Cell.base, cell, cached]) ?_
    exact (update_eq_self_iff.mpr (by simp [Cell.fill, cell, cached])).symm
  | none =>
    cases filed : reg.conversations.lookup groupIdHex with
    | some file =>
      cases file with
      | error error =>
        simp only [openConversation, filed]
        exact .failed _ (by simp [Cell.base, cell, slot, cached, filed])
      | ok conv =>
        simp only [openConversation, filed]
        exact .hydrated conv _ (by simp [Cell.base, cell, slot, cached, filed])
          (cell_enter reg groupIdHex conv)
    | none =>
      simp only [openConversation, filed]
      cases missing with
      | error error => exact .failed error (by simp [cell, slot, cached, filed]; rfl)
      | ok conv =>
        exact .hydrated conv _ (by simp [cell, slot, cached, filed]; rfl)
          (cell_enter reg groupIdHex conv)

inductive MutateSpec {α : Type} (reg : Registry) (groupIdHex : String)
    (missing : Option Conversation) (fault : Option ChatError)
    (mutate : Conversation → MutateAction α × Conversation) : Except ChatError α × Registry → Prop
  | failed (error : ChatError) (nothing : (reg.cell groupIdHex).base missing = none) :
      MutateSpec reg groupIdHex missing fault mutate (.error error, reg)
  | skipped (conv conv' : Conversation) (value : α) (after : Registry)
      (started : (reg.cell groupIdHex).base missing = some conv)
      (skips : mutate conv = (.skip value, conv'))
      (filled : after.cell =
        update reg.cell groupIdHex ((reg.cell groupIdHex).fill conv)) :
      MutateSpec reg groupIdHex missing fault mutate (.ok value, after)
  | unsealed (conv conv' : Conversation) (value : α) (error : ChatError) (after : Registry)
      (started : (reg.cell groupIdHex).base missing = some conv)
      (persists : mutate conv = (.persist value, conv')) (refused : fault = some error)
      (filled : after.cell =
        update reg.cell groupIdHex ((reg.cell groupIdHex).fill conv)) :
      MutateSpec reg groupIdHex missing fault mutate (.error error, after)
  | committed (conv conv' : Conversation) (value : α) (after : Registry)
      (started : (reg.cell groupIdHex).base missing = some conv)
      (persists : mutate conv = (.persist value, conv')) (sealed : fault = none)
      (written : after.cell =
        update reg.cell groupIdHex ⟨some conv', .holds conv'⟩) :
      MutateSpec reg groupIdHex missing fault mutate (.ok value, after)

section
variable {α : Type} (reg : Registry) (groupIdHex : String)
  (missing : Except ChatError Conversation) (fault : Option ChatError)
  (mutate : Conversation → MutateAction α × Conversation)
  {after : Registry → Conversation → Registry}
  (quiet : ∀ reg conv, (after reg conv).cell = reg.cell)
include quiet

theorem mutateLocked_spec :
    MutateSpec reg groupIdHex missing.toOption fault mutate
      (reg.mutateLocked groupIdHex missing fault mutate after) := by
  unfold mutateLocked
  generalize outcome : reg.hydrate groupIdHex missing = hydration
  have spec := outcome ▸ hydrate_spec reg groupIdHex missing
  cases spec with
  | failed error nothing => exact .failed error nothing
  | hydrated conv hydrated started filled =>
    dsimp only
    rcases acts : mutate conv with ⟨action, conv'⟩
    cases action with
    | skip value => exact .skipped conv conv' value hydrated started acts filled
    | persist value =>
      cases fault with
      | some error => exact .unsealed conv conv' value error hydrated started acts rfl filled
      | none =>
        refine .committed conv conv' value _ started acts rfl ?_
        rw [quiet, cell_writeBack, filled]
        exact update_idem _ _ _

theorem cell_mutateLocked :
    (reg.mutateLocked groupIdHex missing fault mutate after).2.cell =
      update reg.cell groupIdHex
        ((reg.cell groupIdHex).mutate missing.toOption (sealed fault mutate)) := by
  generalize outcome : reg.mutateLocked groupIdHex missing fault mutate after = result
  have spec := outcome ▸ mutateLocked_spec reg groupIdHex missing fault mutate quiet
  cases spec with
  | failed error nothing => simp [Cell.mutate, nothing]
  | skipped conv conv' value hydrated started skips filled =>
    cases fault <;> simp [Cell.mutate, started, sealed, skips, filled]
  | unsealed conv conv' value error hydrated started persists refused filled =>
    simp [Cell.mutate, started, sealed, refused, filled]
  | committed conv conv' value sealedReg started persists ok written =>
    simp [Cell.mutate, started, sealed, persists, ok, written]

end

section
variable (reg : Registry) (groupIdHex : String)

theorem mutateInPlace_spec
    (fault : Option ChatError) (mutate : Conversation → MutateAction α × Conversation) :
    MutateSpec reg groupIdHex none fault mutate (reg.mutateInPlace groupIdHex fault mutate) := by
  apply mutateLocked_spec reg groupIdHex (.error _) fault mutate
  intro reg conv
  rfl

theorem stored_eq_base :
    reg.stored groupIdHex = (reg.cell groupIdHex).base none := by
  unfold stored cell slot onDisk
  cases reg.byGroupId.lookup groupIdHex with
  | some conv => rfl
  | none =>
    cases reg.conversations.lookup groupIdHex with
    | none => rfl
    | some file => cases file <;> rfl

theorem stored_mutateInPlace
    (fault : Option ChatError) (mutate : Conversation → MutateAction α × Conversation) :
    (reg.mutateInPlace groupIdHex fault mutate).2.stored =
      update reg.stored groupIdHex
        ((reg.stored groupIdHex).map fun conv => (sealed fault mutate conv).getD conv) := by
  have moved : (reg.mutateInPlace groupIdHex fault mutate).2.cell =
      update reg.cell groupIdHex
        ((reg.cell groupIdHex).mutate none (sealed fault mutate)) :=
    cell_mutateLocked reg groupIdHex _ fault mutate fun _ _ => rfl
  funext query
  rw [stored_eq_base, moved]
  by_cases same : query = groupIdHex
  · subst same
    rw [update_self, update_self, Cell.base_mutate, stored_eq_base]
  · rw [update_of_ne same, update_of_ne same, stored_eq_base]

end

end Registry

namespace Interleaving

/-- A call; the mutating ones carry the error of a seal that fails. -/
inductive Call (α : Type) where
  | get (groupIdHex : String)
  | findDmWith (peerAgentIdHex : String)
  | mutateInPlace (groupIdHex : String) (fault : Option ChatError)
      (mutate : Conversation → MutateAction α × Conversation)
  | mutateInPlaceOrInit (groupIdHex : String) (initIfMissing : Conversation)
      (fault : Option ChatError) (mutate : Conversation → MutateAction α × Conversation)
  | recordNonce (groupIdHex senderAgentHex : String) (nonce : Nonce) (fault : Option ChatError)
  | recordDelivery (groupIdHex messageId : String) (receivedAtMs : Nat)
      (fault : Option ChatError)

inductive Answer (α : Type) where
  | conversation (result : Except ChatError (Option Conversation))
  | mutated (result : Except ChatError α)
  | nonce (result : Except ChatError NonceCheckOutcome)
  | delivery (result : Except ChatError Bool)

/-- How far a call has come. It takes one step in every state but the last, and holds no lock
between two steps. -/
inductive Task (α : Type) where
  | start (call : Call α)
  | getRead (groupIdHex : String)
  | getInsert (groupIdHex : String) (conv : Conversation)
  | scan (peerAgentIdHex : String) (candidates : List Conversation)
  | scanInsert (peerAgentIdHex : String) (candidates : List Conversation) (conv : Conversation)
  | done (answer : Answer α)

/-- The first step of a call, under the lock. A mutating call does all its work here. -/
def Call.begin {α : Type} (reg : Registry) : Call α → Task α × Registry
  | .get groupIdHex =>
    match reg.byGroupId.lookup groupIdHex with
    | some conv => (.done (.conversation (.ok (some conv))), reg)
    | none => (.getRead groupIdHex, reg)
  | .findDmWith peerAgentIdHex => (.scan peerAgentIdHex (reg.cachedDms peerAgentIdHex), reg)
  | .mutateInPlace groupIdHex fault mutate =>
    let outcome := reg.mutateInPlace groupIdHex fault mutate
    (.done (.mutated outcome.1), outcome.2)
  | .mutateInPlaceOrInit groupIdHex initIfMissing fault mutate =>
    let outcome := reg.mutateInPlaceOrInit groupIdHex initIfMissing fault mutate
    (.done (.mutated outcome.1), outcome.2)
  | .recordNonce groupIdHex senderAgentHex nonce fault =>
    let outcome := reg.recordNonce groupIdHex senderAgentHex nonce fault
    (.done (.nonce outcome.1), outcome.2)
  | .recordDelivery groupIdHex messageId receivedAtMs fault =>
    let outcome := reg.recordDelivery groupIdHex messageId receivedAtMs fault
    (.done (.delivery outcome.1), outcome.2)

/-- One step of a call. `entry` is the file that the listing of the directory yields next, if
the call is a scan; a file that is not there is not listed. -/
def Task.step {α : Type} (reg : Registry) (entry : Option String) : Task α → Task α × Registry
  | .start call => call.begin reg
  | .getRead groupIdHex =>
    match reg.openConversation groupIdHex with
    | .error error => (.done (.conversation (.error error)), reg)
    | .ok none => (.done (.conversation (.ok none)), reg)
    | .ok (some conv) => (.getInsert groupIdHex conv, reg)
  | .getInsert groupIdHex conv =>
    (.done (.conversation (.ok (some conv))), reg.enter groupIdHex conv)
  | .scan peerAgentIdHex candidates =>
    match entry with
    | none => (.done (.conversation (.ok (pickCurrentDm candidates))), reg)
    | some groupIdHex =>
      match reg.openConversation groupIdHex with
      | .error error => (.done (.conversation (.error error)), reg)
      | .ok none => (.scan peerAgentIdHex candidates, reg)
      | .ok (some conv) =>
        if conv.dmWith peerAgentIdHex then (.scanInsert peerAgentIdHex candidates conv, reg)
        else (.scan peerAgentIdHex candidates, reg)
  | .scanInsert peerAgentIdHex candidates conv =>
    (.scan peerAgentIdHex (addCandidate candidates conv),
      (reg.refreshPubkeyCache conv).cacheOrInsert conv)
  | .done answer => (.done answer, reg)

section
variable (α : Type) (reg : Registry)

theorem Call.begin_get (groupIdHex : String) :
    ((.get groupIdHex : Call α).begin reg).2 = reg := by
  simp only [Call.begin]
  split <;> rfl

theorem Task.step_getRead (entry : Option String)
    (groupIdHex : String) : ((.getRead groupIdHex : Task α).step reg entry).2 = reg := by
  simp only [Task.step]
  split <;> rfl

theorem Task.step_scan (entry : Option String)
    (peerAgentIdHex : String) (candidates : List Conversation) :
    ((.scan peerAgentIdHex candidates : Task α).step reg entry).2 = reg := by
  simp only [Task.step]
  split
  · rfl
  · split
    · rfl
    · rfl
    · split <;> rfl

end

abbrev Store := String → Held Conversation

def Store.mutate (store : Store) (groupIdHex : String) (missing : Option Conversation)
    (change : Conversation → Option Conversation) : Store :=
  update store groupIdHex ((store groupIdHex).mutate missing change)

def Call.refer {α : Type} (store : Store) : Call α → Store
  | .get _ => store
  | .findDmWith _ => store
  | .mutateInPlace groupIdHex fault mutate =>
    store.mutate groupIdHex none (sealed fault mutate)
  | .mutateInPlaceOrInit groupIdHex initIfMissing fault mutate =>
    store.mutate groupIdHex (some initIfMissing) (sealed fault mutate)
  | .recordNonce groupIdHex senderAgentHex nonce fault =>
    store.mutate groupIdHex none
      (sealed fault (recordNonceAction senderAgentHex nonce))
  | .recordDelivery groupIdHex messageId receivedAtMs fault =>
    store.mutate groupIdHex none
      (sealed fault (recordDeliveryAction messageId receivedAtMs))

def Task.refer {α : Type} (store : Store) : Task α → Store
  | .start call => call.refer store
  | _ => store

structure System (α : Type) where
  registry : Registry
  tasks : List (Task α)
  reference : Store

structure Turn where
  task : Nat
  entry : Option String

namespace System

variable {α : Type}

def boot (registry : Registry) (calls : List (Call α)) : System α :=
  ⟨registry, calls.map .start, fun groupIdHex => (registry.cell groupIdHex).view⟩

def step (system : System α) (turn : Turn) : System α :=
  match system.tasks[turn.task]? with
  | none => system
  | some task =>
    let (task', registry) := task.step system.registry turn.entry
    ⟨registry, system.tasks.set turn.task task', task.refer system.reference⟩

end System

/-! A call that is not interrupted computes the function of the registry. -/

section
variable (α : Type)

def soloStep {α : Type} (state : Task α × Registry) (entry : Option String) : Task α × Registry :=
  state.1.step state.2 entry

theorem cacheOrInsert_conversations (reg : Registry) (conv : Conversation) :
    (reg.cacheOrInsert conv).conversations = reg.conversations := by
  unfold cacheOrInsert
  split <;> rfl

theorem soloStep_scan (found : reg.conversations.lookup groupIdHex = some file)
    (peerAgentIdHex : String) (candidates : List Conversation) :
    soloStep ((.scan peerAgentIdHex candidates : Task α), reg) (some groupIdHex) =
      match readConversation file with
      | .error error => (.done (.conversation (.error error)), reg)
      | .ok conv =>
        if conv.dmWith peerAgentIdHex then (.scanInsert peerAgentIdHex candidates conv, reg)
        else (.scan peerAgentIdHex candidates, reg) := by
  simp only [soloStep, Task.step, openConversation, found]
  cases readConversation file <;> rfl

theorem solo_scan (peerAgentIdHex : String)
    (entries : List (Sigma fun _ : String => File ChatError Conversation)) :
    ∀ (reg : Registry) (candidates : List Conversation),
      (∀ entry ∈ entries, reg.conversations.lookup entry.1 = some entry.2) →
      ∃ turns, run soloStep ((.scan peerAgentIdHex candidates : Task α), reg) turns =
        (.done (.conversation
          ((reg.scanFiles peerAgentIdHex candidates (entries.map (·.2))).1.map pickCurrentDm)),
          (reg.scanFiles peerAgentIdHex candidates (entries.map (·.2))).2) := by
  induction entries with
  | nil =>
    intro reg candidates _
    exact ⟨[none], rfl⟩
  | cons entry entries ih =>
    intro reg candidates listed
    have first := soloStep_scan α (listed entry List.mem_cons_self) peerAgentIdHex candidates
    have rest : ∀ other ∈ entries, reg.conversations.lookup other.1 = some other.2 := by
      intro other mem
      exact listed other (List.mem_cons_of_mem _ mem)
    simp only [List.map_cons, scanFiles]
    cases opened : readConversation entry.2 with
    | error error =>
      rw [opened] at first
      exact ⟨[some entry.1], first⟩
    | ok conv =>
      rw [opened] at first
      dsimp only at first ⊢
      split
      · rename_i dm
        rw [if_pos dm] at first
        have kept : ∀ other ∈ entries,
            ((reg.refreshPubkeyCache conv).cacheOrInsert conv).conversations.lookup other.1 =
              some other.2 := by
          rw [cacheOrInsert_conversations]
          exact rest
        obtain ⟨turns, ends⟩ := ih _ (addCandidate candidates conv) kept
        refine ⟨some entry.1 :: none :: turns, ?_⟩
        rw [run_cons, first]
        exact ends
      · rename_i other
        rw [if_neg other] at first
        obtain ⟨turns, ends⟩ := ih reg candidates rest
        refine ⟨some entry.1 :: turns, ?_⟩
        rw [run_cons, first]
        exact ends

end

end Interleaving

end Fetchit.Chat
