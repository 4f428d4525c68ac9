import Fetchit.Chat.Interleaving

/-! No committed update of a conversation is lost while every lookup that fills the cache does
so with what the file still holds. The cache and the files then stand for the store on which the
mutating calls take effect one after another; a lookup that fills the cache late undoes the
updates that were made since it read the file. -/
namespace Fetchit.Chat
open Lib Lib.Run Function Registry

namespace Registry

def Warms (before after : Registry) : Prop :=
  ∀ groupIdHex, (before.cell groupIdHex).Warms (after.cell groupIdHex)

theorem warms_of_update {before after : Registry} {cell : Cell Conversation}
    (changed : after.cell = update before.cell groupIdHex cell)
    (warms : (before.cell groupIdHex).Warms cell) : before.Warms after := by
  intro query
  rw [changed]
  by_cases same : query = groupIdHex
  · subst same
    rw [update_self]
    exact warms
  · rw [update_of_ne same]
    exact fun _ => rfl

theorem Warms.onDisk {before after : Registry} (warms : before.Warms after)
    (filed : before.byGroupId.lookup groupIdHex = none → before.onDisk groupIdHex = some conv)
    (cold : after.byGroupId.lookup groupIdHex = none) : after.onDisk groupIdHex = some conv := by
  have same := warms groupIdHex cold
  have cached := congrArg Cell.cached same
  have disk : after.slot groupIdHex = before.slot groupIdHex := congrArg Cell.disk same
  rw [← slot_eq_holds, disk, slot_eq_holds]
  exact filed (cached.symm.trans cold)

theorem warms_refl (reg : Registry) : reg.Warms reg :=
  fun _ _ => rfl

theorem warms_cacheOrInsert (reg : Registry) (conv : Conversation) :
    reg.Warms ((reg.refreshPubkeyCache conv).cacheOrInsert conv) := by
  unfold cacheOrInsert
  split
  · exact fun _ _ => rfl
  · exact warms_of_update (reg.cell_enter conv.groupIdHex conv) (Cell.warms_fill _ conv)

theorem warms_mutateLocked (reg : Registry) (groupIdHex : String)
    (missing : Except ChatError Conversation) (fault : Option ChatError)
    (mutate : Conversation → MutateAction α × Conversation)
    (quiet : ∀ reg conv, (after reg conv).cell = reg.cell) :
    reg.Warms (reg.mutateLocked groupIdHex missing fault mutate after).2 :=
  warms_of_update (reg.cell_mutateLocked groupIdHex missing fault mutate quiet)
    (Cell.warms_mutate _ _ _)

end Registry

namespace Interleaving

/-- The registry stands for the store: its cache is consistent with its files, and the two hold
what the store holds. -/
structure Stands (reg : Registry) (store : Store) : Prop where
  keyed : reg.Coherent
  cells : ∀ groupIdHex, (reg.cell groupIdHex).Coherent
  follows : ∀ groupIdHex, (reg.cell groupIdHex).view = store groupIdHex

def Call.Respectful {α : Type} : Call α → Prop
  | .mutateInPlace _ _ mutate => Registry.Respects (fun _ => True) mutate
  | .mutateInPlaceOrInit groupIdHex initIfMissing _ mutate =>
    initIfMissing.groupIdHex = groupIdHex ∧ Registry.Respects (fun _ => True) mutate
  | _ => True

namespace Stands

variable {reg : Registry} {store : Store} (stands : Stands reg store)
include stands

variable {groupIdHex : String} {conv : Conversation} {after : Registry → Conversation → Registry}

theorem of_update {after : Registry} {cell : Cell Conversation}
    (keyed : after.Coherent) (changed : after.cell = update reg.cell groupIdHex cell)
    (coherent : cell.Coherent) (view : cell.view = held) :
    Stands after (update store groupIdHex held) where
  keyed := keyed
  cells := by
    rw [changed, forall_update_iff reg.cell fun _ cell => cell.Coherent]
    exact ⟨coherent, fun query _ => stands.cells query⟩
  follows := by
    intro query
    rw [changed]
    by_cases same : query = groupIdHex
    · subst same
      rw [update_self, update_self]
      exact view
    · rw [update_of_ne same, update_of_ne same]
      exact stands.follows query

theorem enter (current : reg.onDisk groupIdHex = some conv) :
    Stands (reg.enter groupIdHex conv) store := by
  have named := stands.keyed.diskKeyed current
  have holds := slot_eq_holds.mpr current
  have keyed : (reg.enter groupIdHex conv).Coherent := by
    rw [← named]
    refine coherent_cacheInsert
      (coherent_invariant.refresh stands.keyed trivial) ?_
    intro filed onDisk
    rw [named] at onDisk
    exact Option.some.inj (current.symm.trans onDisk)
  have filled := stands.of_update keyed (reg.cell_enter groupIdHex conv)
    (Cell.coherent_fill (.inr holds)) ((stands.cells groupIdHex).view_fill holds)
  rw [stands.follows groupIdHex, update_eq_self] at filled
  exact filled

theorem cacheOrInsert (filed : reg.byGroupId.lookup conv.groupIdHex = none →
      reg.onDisk conv.groupIdHex = some conv) :
    Stands ((reg.refreshPubkeyCache conv).cacheOrInsert conv) store := by
  unfold Registry.cacheOrInsert
  split
  · exact ⟨coherent_invariant.refresh stands.keyed trivial, stands.cells, stands.follows⟩
  · rename_i cold
    exact stands.enter (filed cold)

theorem mutateLocked (groupIdHex : String) (missing : Except ChatError Conversation)
    (shell : ∀ conv, missing = .ok conv → conv.groupIdHex = groupIdHex)
    (respects : Registry.Respects (fun _ => True) mutate)
    (finish : ∀ {reg conv}, reg.Coherent → (after reg conv).Coherent)
    (quiet : ∀ reg conv, (after reg conv).cell = reg.cell) (fault : Option ChatError) :
    Stands (reg.mutateLocked groupIdHex missing fault mutate after).2
      (store.mutate groupIdHex missing.toOption (sealed fault mutate)) := by
  have keyed : (reg.mutateLocked groupIdHex missing fault mutate after).2.Coherent :=
    coherent_invariant.mutateLocked stands.keyed
      (fun conv same => ⟨shell conv same, trivial⟩) respects (fun h _ => finish h) fault
  have changed := reg.cell_mutateLocked groupIdHex missing fault mutate quiet
  refine stands.of_update keyed changed ((stands.cells groupIdHex).mutate _ _) ?_
  rw [(stands.cells groupIdHex).view_mutate, stands.follows groupIdHex]

theorem begin {call : Call α} (respectful : call.Respectful) :
    Stands (call.begin reg).2 (call.refer store) := by
  have refresh : ∀ {reg : Registry} {conv : Conversation}, reg.Coherent →
      (reg.refreshPubkeyCache conv).Coherent :=
    fun h => coherent_invariant.refresh h trivial
  cases call with
  | get groupIdHex =>
    rw [Call.begin_get]
    exact stands
  | findDmWith peerAgentIdHex => exact stands
  | mutateInPlace groupIdHex fault mutate =>
    refine stands.mutateLocked groupIdHex (.error _) ?_ respectful refresh ?_ fault
    · exact fun _ same => nomatch same
    · exact fun _ _ => rfl
  | mutateInPlaceOrInit groupIdHex initIfMissing fault mutate =>
    refine stands.mutateLocked groupIdHex (.ok initIfMissing) ?_ respectful.2 refresh ?_ fault
    · intro conv same
      cases same
      exact respectful.1
    · exact fun _ _ => rfl
  | recordNonce groupIdHex senderAgentHex nonce fault =>
    refine stands.mutateLocked groupIdHex (.error _) ?_ ?_ id ?_ fault
    · exact fun _ same => nomatch same
    · exact fun conv _ => ⟨(recordNonceAction_members senderAgentHex nonce conv).1, trivial⟩
    · exact fun _ _ => rfl
  | recordDelivery groupIdHex messageId receivedAtMs fault =>
    refine stands.mutateLocked groupIdHex (.error _) ?_ ?_ id ?_ fault
    · exact fun _ same => nomatch same
    · exact fun conv _ => ⟨(recordDeliveryAction_members messageId receivedAtMs conv).1, trivial⟩
    · exact fun _ _ => rfl

theorem base (groupIdHex : String) (missing : Option Conversation) :
    (store groupIdHex).base missing = (reg.cell groupIdHex).base missing := by
  rw [← stands.follows groupIdHex, Cell.base_view]

theorem mutateLocked_ok (quiet : ∀ reg conv, (after reg conv).cell = reg.cell)
    (ok : (reg.mutateLocked groupIdHex missing fault mutate after).1 = .ok value) :
    ∃ conv, (store groupIdHex).base missing.toOption = some conv ∧
      ((mutate conv).1 = .skip value ∨ (mutate conv).1 = .persist value ∧
        store.mutate groupIdHex missing.toOption (sealed fault mutate) groupIdHex =
          .saved (mutate conv).2) := by
  rw [stands.base groupIdHex]
  generalize outcome : reg.mutateLocked groupIdHex missing fault mutate after = result at ok
  have spec := outcome ▸ mutateLocked_spec reg groupIdHex missing fault mutate quiet
  cases spec with
  | failed | unsealed => cases ok
  | skipped conv conv' returned after' started skips filled =>
    cases ok
    exact ⟨conv, started, .inl (congrArg Prod.fst skips)⟩
  | committed conv conv' returned after' started persists sealed written =>
    cases ok
    refine ⟨conv, started, .inr ⟨congrArg Prod.fst persists, ?_⟩⟩
    have changes : Registry.sealed fault mutate conv = some (mutate conv).2 := by
      simp [Registry.sealed, sealed, persists]
    rw [Store.mutate, update_self]
    exact Held.mutate_of_change ((stands.base groupIdHex _).trans started) changes

theorem mutateLocked_skip (missing : Except ChatError Conversation)
    (quiet : ∀ reg conv, (after reg conv).cell = reg.cell)
    (held : (store groupIdHex).base missing.toOption = some conv)
    (skips : (mutate conv).1 = .skip value) (fault : Option ChatError) :
    (reg.mutateLocked groupIdHex missing fault mutate after).1 = .ok value := by
  rw [stands.base groupIdHex] at held
  generalize outcome : reg.mutateLocked groupIdHex missing fault mutate after = result
  have spec := outcome ▸ mutateLocked_spec reg groupIdHex missing fault mutate quiet
  cases spec with
  | failed error nothing => cases held.symm.trans nothing
  | skipped conv' _ returned after' started skips' filled =>
    cases held.symm.trans started
    rw [skips'] at skips
    cases skips
    rfl
  | unsealed conv' _ returned error after' started persists refused filled =>
    cases held.symm.trans started
    rw [persists] at skips
    cases skips
  | committed conv' _ returned after' started persists sealed written =>
    cases held.symm.trans started
    rw [persists] at skips
    cases skips

end Stands

section
variable {α : Type}

def Task.Fine (reg : Registry) : Task α → Prop
  | .start call => call.Respectful
  | .scanInsert _ _ conv =>
    reg.byGroupId.lookup conv.groupIdHex = none → reg.onDisk conv.groupIdHex = some conv
  | _ => True

def Task.Fresh (reg : Registry) : Task α → Prop
  | .getInsert groupIdHex conv => reg.onDisk groupIdHex = some conv
  | _ => True

theorem Call.warms_begin (reg : Registry) (call : Call α) : reg.Warms (call.begin reg).2 := by
  cases call with
  | get groupIdHex =>
    rw [Call.begin_get]
    exact reg.warms_refl
  | findDmWith peerAgentIdHex => exact reg.warms_refl
  | mutateInPlace groupIdHex fault mutate =>
    exact reg.warms_mutateLocked groupIdHex _ fault mutate fun _ _ => rfl
  | mutateInPlaceOrInit groupIdHex initIfMissing fault mutate =>
    exact reg.warms_mutateLocked groupIdHex _ fault mutate fun _ _ => rfl
  | recordNonce groupIdHex senderAgentHex nonce fault =>
    exact reg.warms_mutateLocked groupIdHex _ fault _ fun _ _ => rfl
  | recordDelivery groupIdHex messageId receivedAtMs fault =>
    exact reg.warms_mutateLocked groupIdHex _ fault _ fun _ _ => rfl

theorem Call.fine_begin (reg : Registry) (call : Call α) :
    (call.begin reg).1.Fine (call.begin reg).2 := by
  cases call with
  | get groupIdHex =>
    simp only [Call.begin]
    split <;> trivial
  | _ => trivial

theorem Task.Fine.warm (warms : before.Warms after) {task : Task α}
    (fine : task.Fine before) : task.Fine after := by
  cases task with
  | scanInsert peerAgentIdHex candidates conv => exact warms.onDisk fine
  | start call => exact fine
  | _ => trivial

theorem Task.warms_step (reg : Registry) (entry : Option String) (task : Task α) :
    reg.Warms (task.step reg entry).2 := by
  cases task with
  | start call => exact call.warms_begin reg
  | getRead groupIdHex =>
    rw [Task.step_getRead]
    exact reg.warms_refl
  | getInsert groupIdHex conv =>
    exact warms_of_update (reg.cell_enter groupIdHex conv) (Cell.warms_fill _ conv)
  | scan peerAgentIdHex candidates =>
    rw [Task.step_scan]
    exact reg.warms_refl
  | scanInsert peerAgentIdHex candidates conv => exact reg.warms_cacheOrInsert conv
  | done answer => exact reg.warms_refl

theorem Task.fine_step (keyed : reg.Coherent) (entry : Option String)
    (task : Task α) : (task.step reg entry).1.Fine (task.step reg entry).2 := by
  cases task with
  | start call => exact call.fine_begin reg
  | getRead groupIdHex =>
    simp only [Task.step]
    split <;> trivial
  | getInsert | scanInsert | done => trivial
  | scan peerAgentIdHex candidates =>
    simp only [Task.step]
    split
    · trivial
    · split
      · trivial
      · trivial
      · rename_i conv opened
        have filed := onDisk_eq_some.mpr (openConversation_eq_some.mp opened)
        split
        · intro _
          rw [keyed.diskKeyed filed]
          exact filed
        · trivial

theorem Stands.step (stands : Stands reg store)
    {task : Task α} (fine : task.Fine reg) (fresh : task.Fresh reg) (entry : Option String) :
    Stands (task.step reg entry).2 (task.refer store) := by
  cases task with
  | start call => exact stands.begin fine
  | getRead groupIdHex =>
    rw [Task.step_getRead]
    exact stands
  | getInsert groupIdHex conv => exact stands.enter fresh
  | scan peerAgentIdHex candidates =>
    rw [Task.step_scan]
    exact stands
  | scanInsert peerAgentIdHex candidates conv => exact stands.cacheOrInsert fine
  | done answer => exact stands

namespace System

def Fresh (system : System α) (turn : Turn) : Prop :=
  ∀ task, system.tasks[turn.task]? = some task → task.Fresh system.registry

theorem fresh_of_task {system : System α}
    (scheduled : system.tasks[turn.task]? = some task) (fresh : task.Fresh system.registry) :
    system.Fresh turn := by
  intro other same
  cases scheduled.symm.trans same
  exact fresh

structure Sound (system : System α) : Prop where
  stands : Stands system.registry system.reference
  fine : ∀ task ∈ system.tasks, task.Fine system.registry

theorem boot_sound {registry : Registry} {calls : List (Call α)} (keyed : registry.Coherent)
    (cells : ∀ groupIdHex, (registry.cell groupIdHex).Coherent)
    (respectful : ∀ call ∈ calls, call.Respectful) : (boot registry calls).Sound where
  stands := ⟨keyed, cells, fun _ => rfl⟩
  fine := by
    intro task mem
    obtain ⟨call, listed, rfl⟩ := List.mem_map.mp mem
    exact respectful call listed

theorem step_sound (system : System α) (turn : Turn) (sound : system.Sound)
    (fresh : system.Fresh turn) : (system.step turn).Sound := by
  unfold step
  cases scheduled : system.tasks[turn.task]? with
  | none => exact sound
  | some task =>
    have fine := sound.fine task (List.mem_of_getElem? scheduled)
    refine ⟨sound.stands.step fine (fresh task scheduled) turn.entry, ?_⟩
    intro other mem
    rcases List.mem_or_eq_of_mem_set mem with old | rfl
    · exact (sound.fine other old).warm (task.warms_step system.registry turn.entry)
    · exact task.fine_step sound.stands.keyed turn.entry

end System

def Remembers (held : Held Conversation) (senderAgentHex : String) (nonce : Nonce) : Prop :=
  ∃ conv, held.base none = some conv ∧ nonce ∈ conv.nonceWindow senderAgentHex

theorem Stands.recordNonce_replay (stands : Stands reg store)
    (seen : Remembers (store groupIdHex) senderAgentHex nonce) (fault : Option ChatError) :
    (reg.recordNonce groupIdHex senderAgentHex nonce fault).1 = .ok .replay := by
  obtain ⟨conv, held, listed⟩ := seen
  refine stands.mutateLocked_skip (.error _) (fun _ _ => rfl) held ?_ fault
  simp [recordNonceAction, Conversation.checkAndRecordNonce, listed]

theorem Stands.recordNonce_recorded (stands : Stands reg store)
    (recorded : (reg.recordNonce groupIdHex senderAgentHex nonce fault).1 = .ok .recorded) :
    Remembers ((Call.recordNonce groupIdHex senderAgentHex nonce fault : Call α).refer store
      groupIdHex) senderAgentHex nonce := by
  obtain ⟨conv, held, skips | ⟨persists, saved⟩⟩ :=
    stands.mutateLocked_ok (fun _ _ => rfl) recorded
  · simp only [recordNonceAction] at skips
    split at skips <;> cases skips
  · refine ⟨(recordNonceAction senderAgentHex nonce conv).2, ?_, ?_⟩
    · exact congrArg (Held.base none) saved
    · exact conv.mem_nonceWindow_checkAndRecordNonce senderAgentHex nonce

end

def coldConversation : Conversation := { bobConversation with groupIdHex := "b0" }

def coldRegistry : Registry :=
  .new ((∅ : Map String (File ChatError Conversation)).insert "b0" (.ok coldConversation)) ∅
    "contacts"

theorem coldRegistry_onDisk (filed : coldRegistry.onDisk groupIdHex = some conv) :
    groupIdHex = "b0" ∧ conv = coldConversation := by
  rw [onDisk_eq_some] at filed
  simp only [coldRegistry, new, lookup_insert] at filed
  split at filed
  · rename_i same
    cases filed
    exact ⟨same, rfl⟩
  · cases filed

theorem coldRegistry_coherent : coldRegistry.Coherent where
  cacheKeyed := by
    intro groupIdHex conv cached
    cases cached
  diskKeyed := by
    intro groupIdHex conv filed
    obtain ⟨rfl, rfl⟩ := coldRegistry_onDisk filed
    rfl
  agrees := by
    intro groupIdHex cached conv found
    cases found

theorem coldRegistry_cells (groupIdHex : String) : (coldRegistry.cell groupIdHex).Coherent := by
  intro conv cached
  cases cached

def bobNonce : Nonce := Vector.replicate 12 0

def coldCalls : List (Call Unit) :=
  [.get "b0", .recordNonce "b0" "bob" bobNonce none, .recordNonce "b0" "bob" bobNonce none]

theorem coldCalls_respectful : ∀ call ∈ coldCalls, call.Respectful := by
  intro call mem
  simp only [coldCalls, List.mem_cons, List.not_mem_nil, or_false] at mem
  rcases mem with rfl | rfl | rfl <;> trivial

def coldRun (order : List Nat) : System Unit :=
  run System.step (System.boot coldRegistry coldCalls) (order.map fun task => ⟨task, none⟩)

/-- What one mutating call makes of a cell: the cache ends as the disk does, an error leaves the
disk as it was, and a success has written what there was to write. -/
structure AllOrNothing (missing : Option Conversation)
    (mutate : Conversation → MutateAction α × Conversation) (before after : Cell Conversation)
    (result : Except ChatError α) : Prop where
  agrees : after.cached = after.disk.read
  failed : ∀ error, result = .error error → after.disk = before.disk
  succeeded : ∀ value, result = .ok value → ∃ conv conv', before.base missing = some conv ∧
    (mutate conv = (.skip value, conv') ∧ after.disk = before.disk ∨
      mutate conv = (.persist value, conv') ∧ after.disk = .holds conv')

section
variable (reg : Registry) (groupIdHex : String)

def CacheAgrees : Prop :=
  ∀ conv, (reg.cell groupIdHex).cached = some conv → (reg.cell groupIdHex).disk = .holds conv

variable {reg groupIdHex} (cacheAgrees : CacheAgrees reg groupIdHex)
include cacheAgrees

theorem AllOrNothing.of_spec
    (starts : (reg.cell groupIdHex).disk = .absent → ∀ conv, missing = some conv →
      sealed fault mutate conv ≠ none)
    (spec : MutateSpec reg groupIdHex missing fault mutate call) :
    AllOrNothing missing mutate (reg.cell groupIdHex) (call.2.cell groupIdHex) call.1 := by
  have filed {conv} (started : (reg.cell groupIdHex).base missing = some conv)
      (unsealed : sealed fault mutate conv = none) :
      some conv = (reg.cell groupIdHex).disk.read := by
    unfold Cell.base at started
    split at started
    · cases started
      rw [cacheAgrees conv ‹_›, Slot.read]
    · simp [*, Slot.read]
    · cases started
    · exact absurd unsealed (starts ‹_› conv started)
  cases spec with
  | failed error nothing =>
    refine ⟨?_, fun _ _ => rfl, by rintro _ ⟨⟩⟩
    unfold Cell.base at nothing
    split at nothing
    · cases nothing
    · cases nothing
    · simp [*, Slot.read]
    · simp [*, Slot.read]
  | skipped conv conv' value after started skips filled =>
    rw [filled, update_self]
    refine ⟨filed started (by cases fault <;> simp [sealed, skips]), fun _ _ => rfl, ?_⟩
    rintro _ ⟨⟩
    exact ⟨conv, conv', started, .inl ⟨skips, rfl⟩⟩
  | unsealed conv conv' value error after started persists refused filled =>
    rw [filled, update_self]
    exact ⟨filed started (by simp [sealed, refused]), fun _ _ => rfl, by rintro _ ⟨⟩⟩
  | committed conv conv' value after started persists ok written =>
    rw [written, update_self]
    refine ⟨rfl, by rintro _ ⟨⟩, ?_⟩
    rintro _ ⟨⟩
    exact ⟨conv, conv', started, .inr ⟨persists, rfl⟩⟩

theorem AllOrNothing.writes_start (absent : (reg.cell groupIdHex).disk = .absent)
    (spec : MutateSpec reg groupIdHex (some init) fault mutate call)
    (kept : AllOrNothing (some init) mutate (reg.cell groupIdHex) (call.2.cell groupIdHex)
      call.1) : sealed fault mutate init ≠ none := by
  have started : (reg.cell groupIdHex).base (some init) = some init := by
    unfold Cell.base
    split
    · rw [cacheAgrees _ ‹_›] at absent
      cases absent
    all_goals simp_all
  have unread (filled : call.2.cell =
      update reg.cell groupIdHex ((reg.cell groupIdHex).fill init)) : False := by
    -- the start is cached and has no file
    have agrees := kept.agrees
    rw [filled, update_self, Cell.fill, absent] at agrees
    cases agrees
  cases spec with
  | failed error nothing => cases started.symm.trans nothing
  | skipped conv conv' value after held skips filled =>
    cases started.symm.trans held
    exact (unread filled).elim
  | unsealed conv conv' value error after held persists refused filled =>
    cases started.symm.trans held
    exact (unread filled).elim
  | committed conv conv' value after held persists ok written =>
    cases started.symm.trans held
    simp [sealed, persists, ok]

end

end Interleaving

end Fetchit.Chat
