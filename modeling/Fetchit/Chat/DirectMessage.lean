import Fetchit.Chat.Inbound

/-! The direct message with a peer. In a coherent registry `findDmWith` selects the stored
conversation of highest rank among those that count as a DM with the peer, and an accepted
Welcome of a third party leaves that choice alone exactly when the conversation it writes does
not outrank it. -/
namespace Fetchit.Chat
open Lib Proto.Identity Proto.Envelope Conversation

namespace Registry

/-- The cache and the files are keyed by group id and agree where both hold a conversation. -/
structure Coherent (reg : Registry) : Prop where
  cacheKeyed : ∀ {groupIdHex conv}, reg.byGroupId.lookup groupIdHex = some conv →
    conv.groupIdHex = groupIdHex
  diskKeyed : ∀ {groupIdHex conv}, reg.onDisk groupIdHex = some conv →
    conv.groupIdHex = groupIdHex
  agrees : ∀ {groupIdHex cached conv}, reg.byGroupId.lookup groupIdHex = some cached →
    reg.onDisk groupIdHex = some conv → cached = conv

variable {reg : Registry} {groupIdHex peerAgentIdHex : String} {conv : Conversation}
  {candidates : List Conversation}

theorem Coherent.stored_keyed (coherent : reg.Coherent) (h : reg.stored groupIdHex = some conv) :
    conv.groupIdHex = groupIdHex := by
  rcases Option.or_eq_some_iff.mp h with cached | ⟨_, filed⟩
  · exact coherent.cacheKeyed cached
  · exact coherent.diskKeyed filed

theorem Coherent.stored_of_onDisk (coherent : reg.Coherent)
    (h : reg.onDisk groupIdHex = some conv) : reg.stored groupIdHex = some conv := by
  cases hc : reg.byGroupId.lookup groupIdHex with
  | none => simp [stored, hc, h]
  | some cached =>
    rw [coherent.agrees hc h] at hc
    exact stored_of_cached hc

theorem onDisk_writeBack (reg : Registry) (groupIdHex query : String) (conv : Conversation) :
    (reg.writeBack groupIdHex conv).onDisk query =
      if query = groupIdHex then some conv else reg.onDisk query := by
  by_cases h : query = groupIdHex <;>
    simp [onDisk, writeBack, sealFile, cacheInsert, lookup_insert, h]

theorem coherent_cacheInsert (coherent : reg.Coherent)
    (agrees : ∀ filed, reg.onDisk conv.groupIdHex = some filed → conv = filed) :
    (reg.cacheInsert conv.groupIdHex conv).Coherent where
  cacheKeyed := by
    intro groupIdHex cached h
    simp only [cacheInsert, lookup_insert] at h
    split at h
    · cases h
      symm
      assumption
    · exact coherent.cacheKeyed h
  diskKeyed := coherent.diskKeyed
  agrees := by
    intro groupIdHex cached filed h onDisk
    simp only [cacheInsert, lookup_insert] at h
    split at h
    · rename_i same
      subst same
      cases h
      exact agrees filed onDisk
    · exact coherent.agrees h onDisk

theorem coherent_writeBack (coherent : reg.Coherent) (conv : Conversation) :
    (reg.writeBack conv.groupIdHex conv).Coherent := by
  have sealed : (reg.writeBack conv.groupIdHex conv).onDisk = fun query =>
      if query = conv.groupIdHex then some conv else reg.onDisk query :=
    funext fun query => reg.onDisk_writeBack conv.groupIdHex query conv
  refine ⟨?_, ?_, ?_⟩
  · intro groupIdHex cached h
    simp only [writeBack, cacheInsert, lookup_insert] at h
    split at h
    · cases h
      symm
      assumption
    · exact coherent.cacheKeyed h
  · intro groupIdHex filed h
    rw [sealed] at h
    dsimp only at h
    split at h
    · cases h
      symm
      assumption
    · exact coherent.diskKeyed h
  · intro groupIdHex cached filed h onDisk
    rw [sealed] at onDisk
    simp only [writeBack, cacheInsert, lookup_insert] at h
    dsimp only at onDisk
    split at h
    · rename_i same
      rw [if_pos same] at onDisk
      exact (Option.some.inj h).symm.trans (Option.some.inj onDisk)
    · rename_i other
      rw [if_neg other] at onDisk
      exact coherent.agrees h onDisk

theorem coherent_invariant : Invariant (fun _ => True) Coherent where
  fine_members _ _ := trivial
  cached coherent h := ⟨coherent.cacheKeyed h, trivial⟩
  filed coherent h := ⟨coherent.diskKeyed h, trivial⟩
  refresh coherent _ := ⟨coherent.cacheKeyed, coherent.diskKeyed, coherent.agrees⟩
  hydrate := by
    intro reg groupIdHex conv coherent cold filed
    have named := coherent.diskKeyed filed
    subst named
    apply coherent_cacheInsert coherent
    intro other onDisk
    exact Option.some.inj (filed.symm.trans onDisk)
  bootstrap := by
    intro reg conv coherent cold absent _
    apply coherent_cacheInsert coherent
    intro other onDisk
    simp [onDisk_eq_some, absent] at onDisk
  write coherent _ := coherent_writeBack coherent _
  contacts coherent _ := ⟨coherent.cacheKeyed, coherent.diskKeyed, coherent.agrees⟩

def Readable (reg : Registry) : Prop :=
  ∀ file ∈ reg.files, ∃ conv, file = .ok conv

theorem readable_iff :
    reg.Readable ↔ ∀ groupIdHex file, reg.conversations.lookup groupIdHex = some file →
      ∃ conv, file = .ok conv := by
  simp only [Readable, files, List.mem_map]
  constructor
  · intro readable groupIdHex file found
    exact readable file ⟨⟨groupIdHex, file⟩, AList.mem_lookup_iff.mp found, rfl⟩
  · rintro readable file ⟨⟨groupIdHex, file'⟩, mem, rfl⟩
    exact readable groupIdHex file' (AList.mem_lookup_iff.mpr mem)

theorem readable_writeBack (readable : reg.Readable) (groupIdHex : String) (conv : Conversation) :
    (reg.writeBack groupIdHex conv).Readable := by
  rw [readable_iff] at readable ⊢
  intro query file found
  simp only [writeBack, sealFile, cacheInsert, lookup_insert] at found
  split at found
  · exact ⟨conv, (Option.some.inj found).symm⟩
  · exact readable query file found

theorem Invariant.and_readable
    (rule : Invariant fine holds) : Invariant fine fun reg => holds reg ∧ reg.Readable where
  fine_members := rule.fine_members
  cached h := rule.cached h.1
  filed h := rule.filed h.1
  refresh h ok := ⟨rule.refresh h.1 ok, h.2⟩
  hydrate h cold filed := ⟨rule.hydrate h.1 cold filed, h.2⟩
  bootstrap h cold absent ok := ⟨rule.bootstrap h.1 cold absent ok, h.2⟩
  write h ok := ⟨rule.write h.1 ok, readable_writeBack h.2 _ _⟩
  contacts h contacts := ⟨rule.contacts h.1 contacts, h.2⟩

def dmFiles (peerAgentIdHex : String) (files : List (File ChatError Conversation)) :
    List Conversation :=
  (files.filterMap Except.toOption).filter (·.dmWith peerAgentIdHex)

theorem scanFiles_of_readable {files : List (File ChatError Conversation)}
    (readable : ∀ file ∈ files, ∃ conv, file = .ok conv) (reg : Registry)
    (candidates : List Conversation) :
    (reg.scanFiles peerAgentIdHex candidates files).1 =
      .ok ((dmFiles peerAgentIdHex files).foldl addCandidate candidates) := by
  induction files generalizing reg candidates with
  | nil => rfl
  | cons file files ih =>
    obtain ⟨conv, rfl⟩ := readable file List.mem_cons_self
    have rest := fun file mem => readable file (List.mem_cons_of_mem _ mem)
    simp only [scanFiles, readConversation, Except.mapError, dmFiles, List.filterMap_cons,
      Except.toOption]
    by_cases dm : conv.dmWith peerAgentIdHex
    · simp [dm, ih rest, dmFiles]
    · simp [dm, ih rest, dmFiles]

theorem readable_of_scanFiles {files : List (File ChatError Conversation)}
    (h : (reg.scanFiles peerAgentIdHex candidates files).1 = .ok found) :
    ∀ file ∈ files, ∃ conv, file = .ok conv := by
  induction files generalizing reg candidates with
  | nil => simp
  | cons file files ih =>
    cases file with
    | error error => cases h
    | ok conv =>
      simp only [scanFiles, readConversation, Except.mapError] at h
      simp only [List.forall_mem_cons]
      refine ⟨⟨conv, rfl⟩, ?_⟩
      split at h
      · exact ih h
      · exact ih h

theorem mem_addCandidate (h : other ∈ addCandidate candidates conv) :
    other ∈ candidates ∨ other = conv := by
  unfold addCandidate at h
  split at h
  · exact .inl h
  · simpa using h

section
variable (candidates : List Conversation) (conv : Conversation)

theorem subset_addCandidate :
    candidates ⊆ addCandidate candidates conv := by
  unfold addCandidate
  split <;> simp

theorem group_addCandidate :
    ∃ other ∈ addCandidate candidates conv, other.groupIdHex = conv.groupIdHex := by
  unfold addCandidate
  split
  · rename_i seen
    simpa using seen
  · exact ⟨conv, by simp, rfl⟩

end

theorem mem_foldl_addCandidate {convs : List Conversation}
    (h : conv ∈ convs.foldl addCandidate candidates) : conv ∈ candidates ∨ conv ∈ convs := by
  induction convs generalizing candidates with
  | nil => exact .inl h
  | cons head convs ih =>
    rcases ih h with earlier | later
    · rcases mem_addCandidate earlier with old | rfl
      · exact .inl old
      · exact .inr List.mem_cons_self
    · exact .inr (List.mem_cons_of_mem _ later)

theorem subset_foldl_addCandidate (convs candidates : List Conversation) :
    candidates ⊆ convs.foldl addCandidate candidates := by
  induction convs generalizing candidates with
  | nil => exact List.Subset.refl _
  | cons head convs ih => exact List.Subset.trans (subset_addCandidate candidates head) (ih _)

theorem group_foldl_addCandidate {convs : List Conversation} (h : conv ∈ convs)
    (candidates : List Conversation) :
    ∃ other ∈ convs.foldl addCandidate candidates, other.groupIdHex = conv.groupIdHex := by
  induction convs generalizing candidates with
  | nil => cases h
  | cons head convs ih =>
    rcases List.mem_cons.mp h with rfl | later
    · obtain ⟨other, mem, named⟩ := group_addCandidate candidates conv
      exact ⟨other, subset_foldl_addCandidate convs _ mem, named⟩
    · exact ih later _

theorem mem_cachedDms :
    conv ∈ reg.cachedDms peerAgentIdHex ↔
      (∃ groupIdHex, reg.byGroupId.lookup groupIdHex = some conv) ∧
        conv.dmWith peerAgentIdHex = true := by
  simp only [cachedDms, List.mem_filter, List.mem_map]
  refine and_congr_left fun _ => ?_
  constructor
  · rintro ⟨⟨groupIdHex, conv⟩, mem, rfl⟩
    exact ⟨groupIdHex, AList.mem_lookup_iff.mpr mem⟩
  · rintro ⟨groupIdHex, found⟩
    exact ⟨⟨groupIdHex, conv⟩, AList.mem_lookup_iff.mp found, rfl⟩

theorem mem_dmFiles :
    conv ∈ dmFiles peerAgentIdHex reg.files ↔
      (∃ groupIdHex, reg.onDisk groupIdHex = some conv) ∧
        conv.dmWith peerAgentIdHex = true := by
  simp only [dmFiles, List.mem_filter, List.mem_filterMap, ← mem_files]
  refine and_congr_left fun _ => ?_
  constructor
  · rintro ⟨file, mem, same⟩
    cases file with
    | error error => cases same
    | ok conv =>
      cases same
      exact mem
  · intro mem
    exact ⟨.ok conv, mem, rfl⟩

def dmCandidates (reg : Registry) (peerAgentIdHex : String) : List Conversation :=
  (dmFiles peerAgentIdHex reg.files).foldl addCandidate (reg.cachedDms peerAgentIdHex)

theorem Coherent.stored_of_mem_dmCandidates (coherent : reg.Coherent)
    (h : conv ∈ reg.dmCandidates peerAgentIdHex) :
    reg.stored conv.groupIdHex = some conv ∧ conv.dmWith peerAgentIdHex = true := by
  rcases mem_foldl_addCandidate h with cached | scanned
  · obtain ⟨⟨groupIdHex, found⟩, dm⟩ := mem_cachedDms.mp cached
    rw [coherent.cacheKeyed found]
    exact ⟨stored_of_cached found, dm⟩
  · obtain ⟨⟨groupIdHex, found⟩, dm⟩ := mem_dmFiles.mp scanned
    rw [coherent.diskKeyed found]
    exact ⟨coherent.stored_of_onDisk found, dm⟩

theorem Coherent.mem_dmCandidates_of_stored (coherent : reg.Coherent)
    (h : reg.stored groupIdHex = some conv) (dm : conv.dmWith peerAgentIdHex = true) :
    conv ∈ reg.dmCandidates peerAgentIdHex := by
  have named := coherent.stored_keyed h
  rcases Option.or_eq_some_iff.mp h with cached | ⟨_, filed⟩
  · exact subset_foldl_addCandidate _ _ (mem_cachedDms.mpr ⟨⟨groupIdHex, cached⟩, dm⟩)
  · obtain ⟨other, mem, same⟩ := group_foldl_addCandidate
      (mem_dmFiles.mpr ⟨⟨groupIdHex, filed⟩, dm⟩) (reg.cachedDms peerAgentIdHex)
    have stored := (coherent.stored_of_mem_dmCandidates mem).1
    rw [same, named, h] at stored
    cases stored
    exact mem

def CurrentDm (reg : Registry) (peerAgentIdHex : String) : Option Conversation → Prop :=
  Select.Best rank reg.stored (·.dmWith peerAgentIdHex = true)

theorem findDmWith_of_readable (readable : reg.Readable) (peerAgentIdHex : String) :
    (reg.findDmWith peerAgentIdHex).1 = .ok (pickCurrentDm (reg.dmCandidates peerAgentIdHex)) := by
  rw [findDmWith]
  rw [scanFiles_of_readable readable]
  rfl

theorem readable_of_findDmWith (h : (reg.findDmWith peerAgentIdHex).1 = .ok current) :
    reg.Readable := by
  rw [findDmWith] at h
  cases hs : (reg.scanFiles peerAgentIdHex (reg.cachedDms peerAgentIdHex) reg.files).1 with
  | error error =>
    rw [hs] at h
    cases h
  | ok found => exact readable_of_scanFiles hs

theorem Coherent.currentDm (coherent : reg.Coherent)
    (h : (reg.findDmWith peerAgentIdHex).1 = .ok current) :
    reg.CurrentDm peerAgentIdHex current := by
  have readable := readable_of_findDmWith h
  rw [findDmWith_of_readable readable] at h
  cases h
  generalize hp : pickCurrentDm (reg.dmCandidates peerAgentIdHex) = picked
  cases picked with
  | none =>
    intro groupIdHex conv stored dm
    have mem := coherent.mem_dmCandidates_of_stored stored dm
    rw [(Select.pick_eq_none _).mp hp] at mem
    cases mem
  | some conv =>
    obtain ⟨mem, highest⟩ := Select.pick_eq_some _ hp
    obtain ⟨stored, dm⟩ := coherent.stored_of_mem_dmCandidates mem
    refine ⟨⟨_, stored⟩, dm, ?_⟩
    intro groupIdHex other present eligible
    exact highest other (coherent.mem_dmCandidates_of_stored present eligible)

theorem conversationPath_of_plainName (plain : PlainName groupIdHex) :
    conversationPath groupIdHex = [groupIdHex.toList ++ ".json.enc".toList] := by
  have whole : '/' ∉ groupIdHex.toList ++ ".json.enc".toList := by
    rw [List.mem_append, not_or]
    exact ⟨plain, by decide⟩
  have long : 1 < (groupIdHex.toList ++ ".json.enc".toList).length := by simp
  unfold conversationPath
  rw [Text.splitChars_of_not_mem whole]
  refine List.filter_cons_of_pos ?_
  rw [Bool.and_eq_true, decide_eq_true_eq, decide_eq_true_eq]
  constructor <;>
  · intro same
    rw [same] at long
    exact absurd long (by decide)

/-- Plain names have files of their own. -/
theorem eq_of_conversationPath (plain : PlainName groupIdHex) (plain' : PlainName other)
    (same : conversationPath other = conversationPath groupIdHex) : other = groupIdHex := by
  rw [conversationPath_of_plainName plain, conversationPath_of_plainName plain'] at same
  exact String.toList_inj.mp (List.append_cancel_right (List.cons.inj same).1)

end Registry

def Conversation.dmIdentity (conv : Conversation) : String × String :=
  (conv.groupIdHex, conv.currentKeyB64)

theorem Conversation.groupIdHex_of_rank {first second : Conversation}
    (h : first.rank = second.rank) : first.groupIdHex = second.groupIdHex := by
  simp only [rank, toLex_inj, Prod.mk.injEq] at h
  exact h.2.2.2

def KeepsDm (reg : Registry) (peerAgentIdHex : String) (current : Option Conversation)
    (written : Conversation) : Prop :=
  Select.Keeps rank reg.stored (·.dmWith peerAgentIdHex = true)
    groupIdHex dmIdentity written current

theorem WelcomeWrites.named {senderAgentHex groupIdHex : String} {trustState : TrustState}
    (coherent : reg.Coherent)
    (writes :
      WelcomeWrites env reg envelope payload senderAgentHex groupIdHex trustState group conv) :
    conv.groupIdHex = group := by
  cases writes with
  | install => rfl
  | rekey _ conv stored =>
    have own := coherent.stored_keyed stored
    exact own

theorem WelcomeWrites.own_file {senderAgentHex groupIdHex : String} {trustState : TrustState}
    (writes :
      WelcomeWrites env reg envelope payload senderAgentHex groupIdHex trustState group conv)
    (plain : Registry.PlainName payload.groupIdHex)
    (named : ∀ other conv, reg.stored other = some conv → Registry.PlainName other)
    (stored : reg.stored other = some conv')
    (same : Registry.conversationPath other = Registry.conversationPath group) :
    other = group := by
  refine Registry.eq_of_conversationPath ?_ (named other conv' stored) same
  cases writes with
  | install => exact plain
  | rekey _ conv known => exact named _ conv known

theorem Registry.coherent_ofConversation (conv : Conversation) :
    (ofConversation conv).Coherent := by
  apply coherent_writeBack
  refine ⟨?_, ?_, ?_⟩
  · intro groupIdHex cached h
    cases h
  · intro groupIdHex filed h
    cases h
  · intro groupIdHex cached filed h
    cases h

theorem bobConversation_found :
    ((Registry.ofConversation bobConversation).findDmWith (hexId bobId)).1 =
      .ok (some bobConversation) :=
  Outcome.toOption_eq_some.mp (by decide +kernel)

def malloryPayload (others : List Member) : WelcomePayload :=
  idealPayload (hexId freshGroup) 9 malloryKey others

def malloryEnvelope : TransitEnvelope := idealEnvelope .dm freshGroup 9 malloryKey [1]

def malloryChat (others : List Member) : ChatCrypto :=
  idealChat [idealEntry malloryEnvelope malloryKey] (malloryPayload others) emptyMessage
    emptyReceipt

def malloryVerified (others : List Member) : WelcomeVerified :=
  ⟨malloryPayload others, hexId malloryId, Base64.encode malloryKey, ""⟩

theorem mallory_writes (others : List Member) (trustState : TrustState) :
    WelcomeWrites quietEnv (.ofConversation bobConversation) malloryEnvelope
      (malloryPayload others) (hexId malloryId) (hexId freshGroup) trustState (hexId freshGroup)
      (.fromWelcome 0 (malloryPayload others) trustState) := by
  have other : hexId freshGroup ≠ bobConversation.groupIdHex := freshGroup_ne_bobGroup
  exact .install rfl (Registry.not_known_ofConversation other)

def plantedDm : Conversation :=
  .fromWelcome 0 (malloryPayload [⟨none, [idealDevice bobKey], 0⟩]) .pending

end Fetchit.Chat
