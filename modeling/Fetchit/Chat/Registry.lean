import Mathlib.Data.Prod.Lex
import Fetchit.Lib.Select
import Fetchit.Chat.Contacts

/-! The conversation registry: a cache over the sealed conversation files, and the cache of
peer keys that both fill. Every operation is a function of the registry; `fault` is the error
of a seal that fails, and a seal is atomic. -/
namespace Fetchit.Chat
open Lib Proto.Identity Function

structure Registry where
  byGroupId : Map String Conversation
  conversations : Map String (File ChatError Conversation)
  peerPubkeys : Map String Bytes
  contacts : Contacts
  contactsDir : String

inductive MutateAction (α : Type) where
  | persist (value : α)
  | skip (value : α)

inductive NonceCheckOutcome where
  | recorded
  | replay
  deriving DecidableEq

def recordNonceAction (senderAgentHex : String) (nonce : Nonce) (conv : Conversation) :
    MutateAction NonceCheckOutcome × Conversation :=
  let checked := conv.checkAndRecordNonce senderAgentHex nonce
  (if checked.1 then .skip .replay else .persist .recorded, checked.2)

def recordDeliveryAction (messageId : String) (receivedAtMs : Nat) (conv : Conversation) :
    MutateAction Bool × Conversation :=
  let applied := conv.applyDeliveryReceipt messageId receivedAtMs
  (if applied.1 then .persist true else .skip false, applied.2)

theorem recordNonceAction_members (senderAgentHex : String) (nonce : Nonce) (conv : Conversation) :
    (recordNonceAction senderAgentHex nonce conv).2.groupIdHex = conv.groupIdHex ∧
      (recordNonceAction senderAgentHex nonce conv).2.members = conv.members := by
  unfold recordNonceAction Conversation.checkAndRecordNonce
  dsimp only
  split <;> exact ⟨rfl, rfl⟩

theorem recordDeliveryAction_members (messageId : String) (receivedAtMs : Nat)
    (conv : Conversation) :
    (recordDeliveryAction messageId receivedAtMs conv).2.groupIdHex = conv.groupIdHex ∧
      (recordDeliveryAction messageId receivedAtMs conv).2.members = conv.members := by
  unfold recordDeliveryAction Conversation.applyDeliveryReceipt
  split <;> exact ⟨rfl, rfl⟩

def parseAgentId (raw : String) : Option String :=
  if raw.utf8ByteSize == 64 && raw.toList.all Text.isHexDigit then some (Text.asciiLower raw)
  else none

theorem parseAgentId_hexId (agentId : AgentId) :
    parseAgentId (hexId agentId) = some (hexId agentId) := by
  have size : (hexId agentId).utf8ByteSize = 64 := by
    rw [hexId, Text.utf8ByteSize_hexEncode]
    simp
  have digits : (hexId agentId).toList.all Text.isHexDigit = true :=
    Text.hexEncode_all_isHexDigit _
  have lower : Text.asciiLower (hexId agentId) = hexId agentId := Text.asciiLower_hexEncode _
  rw [parseAgentId, size, digits, lower]
  rfl

def MemberDevice.cachedKey (device : MemberDevice) : Option (String × Bytes) := do
  let encoded ← device.agentPublicKeyB64
  let publicKey ← Base64.decode encoded
  let agentId ← parseAgentId device.agentIdHex
  some (agentId, publicKey)

def insertKey (keys : Map String Bytes) (entry : String × Bytes) : Map String Bytes :=
  keys.insert entry.1 entry.2

namespace Registry

def new (conversations : Map String (File ChatError Conversation)) (contacts : Contacts)
    (contactsDir : String) : Registry :=
  ⟨∅, conversations, ∅, contacts, contactsDir⟩

def peerMlDsaPubkey (reg : Registry) (agentId : String) : Option Bytes :=
  reg.peerPubkeys.lookup agentId

def refreshPubkeyCache (reg : Registry) (conv : Conversation) : Registry :=
  let entries := (allDevices conv.members).filterMap MemberDevice.cachedKey
  { reg with peerPubkeys := entries.foldl insertKey reg.peerPubkeys }

def cacheInsert (reg : Registry) (groupIdHex : String) (conv : Conversation) : Registry :=
  { reg with byGroupId := reg.byGroupId.insert groupIdHex conv }

/-- The parts of the path of a conversation's file under the directory of the conversations. Empty
parts and single dots lead nowhere, so ids with a separator in them can share a file. -/
def conversationPath (groupIdHex : String) : List (List Char) :=
  (Text.splitChars '/' (groupIdHex.toList ++ ".json.enc".toList)).filter fun part =>
    part ≠ [] && part ≠ ['.']

def PlainName (groupIdHex : String) : Prop := '/' ∉ groupIdHex.toList

instance decidablePlainName (groupIdHex : String) : Decidable (PlainName groupIdHex) :=
  inferInstanceAs (Decidable (_ ∉ _))

/-- The files are kept by group id. For plain names that is the same as by path. -/
def sealFile (reg : Registry) (groupIdHex : String) (conv : Conversation) : Registry :=
  { reg with conversations := reg.conversations.insert groupIdHex (.ok conv) }

def readConversation (file : File ChatError Conversation) : Except ChatError Conversation :=
  file.mapError fun
    | .unreadable error => error
    | .malformed reason => .invalid s!"conv parse: {reason}"

def openConversation (reg : Registry) (groupIdHex : String) :
    Except ChatError (Option Conversation) :=
  match reg.conversations.lookup groupIdHex with
  | none => .ok none
  | some file => (readConversation file).map some

def enter (reg : Registry) (groupIdHex : String) (conv : Conversation) : Registry :=
  (reg.refreshPubkeyCache conv).cacheInsert groupIdHex conv

def get (reg : Registry) (groupIdHex : String) :
    Except ChatError (Option Conversation) × Registry :=
  match reg.byGroupId.lookup groupIdHex with
  | some conv => (.ok (some conv), reg)
  | none =>
    match reg.openConversation groupIdHex with
    | .error error => (.error error, reg)
    | .ok none => (.ok none, reg)
    | .ok (some conv) => (.ok (some conv), reg.enter groupIdHex conv)

def save (reg : Registry) (conv : Conversation) (fault : Option ChatError) :
    Except ChatError Unit × Registry :=
  match fault with
  | some error => (.error error, reg)
  | none => (.ok (), (reg.sealFile conv.groupIdHex conv).enter conv.groupIdHex conv)

def hydrate (reg : Registry) (groupIdHex : String) (missing : Except ChatError Conversation) :
    Except ChatError Conversation × Registry :=
  match reg.byGroupId.lookup groupIdHex with
  | some conv => (.ok conv, reg)
  | none =>
    match reg.openConversation groupIdHex with
    | .error error => (.error error, reg)
    | .ok (some conv) => (.ok conv, reg.enter groupIdHex conv)
    | .ok none =>
      match missing with
      | .error error => (.error error, reg)
      | .ok conv => (.ok conv, reg.enter groupIdHex conv)

def writeBack (reg : Registry) (groupIdHex : String) (conv : Conversation) : Registry :=
  (reg.sealFile groupIdHex conv).cacheInsert groupIdHex conv

/-- The locked read-modify-write that the mutating calls share. A skipped or failed write
leaves the hydrated conversation in the cache. -/
def mutateLocked {α : Type} (reg : Registry) (groupIdHex : String)
    (missing : Except ChatError Conversation) (fault : Option ChatError)
    (mutate : Conversation → MutateAction α × Conversation)
    (after : Registry → Conversation → Registry) : Except ChatError α × Registry :=
  match reg.hydrate groupIdHex missing with
  | (.error error, reg) => (.error error, reg)
  | (.ok conv, reg) =>
    match mutate conv with
    | (.skip value, _) => (.ok value, reg)
    | (.persist value, conv') =>
      match fault with
      | some error => (.error error, reg)
      | none => (.ok value, after (reg.writeBack groupIdHex conv') conv')

def mutateInPlace {α : Type} (reg : Registry) (groupIdHex : String) (fault : Option ChatError)
    (mutate : Conversation → MutateAction α × Conversation) : Except ChatError α × Registry :=
  reg.mutateLocked groupIdHex
    (.error (.invalid s!"mutate_in_place: no conversation for group_id {groupIdHex}")) fault
    mutate refreshPubkeyCache

def mutateInPlaceOrInit {α : Type} (reg : Registry) (groupIdHex : String)
    (initIfMissing : Conversation) (fault : Option ChatError)
    (mutate : Conversation → MutateAction α × Conversation) : Except ChatError α × Registry :=
  reg.mutateLocked groupIdHex (.ok initIfMissing) fault mutate refreshPubkeyCache

def recordNonce (reg : Registry) (groupIdHex senderAgentHex : String) (nonce : Nonce)
    (fault : Option ChatError) : Except ChatError NonceCheckOutcome × Registry :=
  reg.mutateLocked groupIdHex
    (.error (.invalid s!"record_nonce: no conversation for group_id {groupIdHex}")) fault
    (recordNonceAction senderAgentHex nonce) fun reg _ => reg

def recordDelivery (reg : Registry) (groupIdHex messageId : String) (receivedAtMs : Nat)
    (fault : Option ChatError) : Except ChatError Bool × Registry :=
  reg.mutateLocked groupIdHex
    (.error (.invalid s!"record_delivery: no conversation for group_id {groupIdHex}")) fault
    (recordDeliveryAction messageId receivedAtMs) fun reg _ => reg

end Registry

namespace Conversation

def wedgeProgress (now : Nat) (conv : Conversation) : Conversation :=
  { conv with
    wedgeLastProgressMs := now
    wedgeLastInboundMs := now
    wedgeProgressEpoch := conv.currentEpoch }

def wedgeInbound (now : Nat) (frameEpoch : Option Nat) (conv : Conversation) : Conversation :=
  { conv with
    wedgeLastInboundMs := now
    wedgeMaxStaleEpoch := match frameEpoch with
      | some epoch =>
        if epoch > conv.currentEpoch then max conv.wedgeMaxStaleEpoch epoch
        else conv.wedgeMaxStaleEpoch
      | none => conv.wedgeMaxStaleEpoch }

def dmWith (conv : Conversation) (peerAgentIdHex : String) : Bool :=
  conv.members.length == 2 && hasDevice conv.members peerAgentIdHex

def rank (conv : Conversation) : Nat ×ₗ Nat ×ₗ Nat ×ₗ String :=
  toLex (conv.currentEpoch, toLex (conv.lastRekeyAtMs, toLex (conv.createdAtMs, conv.groupIdHex)))

end Conversation

def pickCurrentDm (candidates : List Conversation) : Option Conversation :=
  Select.pick Conversation.rank candidates

namespace Registry

def noteWedgeProgress (reg : Registry) (groupIdHex : String) (now : Nat)
    (fault : Option ChatError) : Registry :=
  (reg.mutateInPlace groupIdHex fault fun conv => (.persist (), conv.wedgeProgress now)).2

def noteWedgeInbound (reg : Registry) (groupIdHex : String) (frameEpoch : Option Nat) (now : Nat)
    (fault : Option ChatError) : Registry :=
  (reg.mutateInPlace groupIdHex fault fun conv =>
    (.persist (), conv.wedgeInbound now frameEpoch)).2

def cacheOrInsert (reg : Registry) (conv : Conversation) : Registry :=
  match reg.byGroupId.lookup conv.groupIdHex with
  | some _ => reg
  | none => reg.cacheInsert conv.groupIdHex conv

def addCandidate (candidates : List Conversation) (conv : Conversation) : List Conversation :=
  if candidates.any (·.groupIdHex == conv.groupIdHex) then candidates else candidates ++ [conv]

def scanFiles (reg : Registry) (peerAgentIdHex : String) (candidates : List Conversation) :
    List (File ChatError Conversation) → Except ChatError (List Conversation) × Registry
  | [] => (.ok candidates, reg)
  | file :: files =>
    match readConversation file with
    | .error error => (.error error, reg)
    | .ok conv =>
      if conv.dmWith peerAgentIdHex then
        scanFiles ((reg.refreshPubkeyCache conv).cacheOrInsert conv) peerAgentIdHex
          (addCandidate candidates conv) files
      else scanFiles reg peerAgentIdHex candidates files

def files (reg : Registry) : List (File ChatError Conversation) :=
  reg.conversations.entries.map (·.2)

def cachedDms (reg : Registry) (peerAgentIdHex : String) : List Conversation :=
  (reg.byGroupId.entries.map (·.2)).filter (·.dmWith peerAgentIdHex)

def findDmWith (reg : Registry) (peerAgentIdHex : String) :
    Except ChatError (Option Conversation) × Registry :=
  let scan := reg.scanFiles peerAgentIdHex (reg.cachedDms peerAgentIdHex) reg.files
  (scan.1.map pickCurrentDm, scan.2)

def onDisk (reg : Registry) (groupIdHex : String) : Option Conversation :=
  match reg.conversations.lookup groupIdHex with
  | some (.ok conv) => some conv
  | _ => none

def stored (reg : Registry) (groupIdHex : String) : Option Conversation :=
  (reg.byGroupId.lookup groupIdHex).or (reg.onDisk groupIdHex)

variable {reg : Registry} {groupIdHex : String} {conv conv' : Conversation}

theorem openConversation_eq_some :
    reg.openConversation groupIdHex = .ok (some conv) ↔
      reg.conversations.lookup groupIdHex = some (.ok conv) := by
  unfold openConversation
  cases h : reg.conversations.lookup groupIdHex with
  | none => simp
  | some file => cases file <;> simp [Except.map, readConversation, Except.mapError]

theorem openConversation_eq_none :
    reg.openConversation groupIdHex = .ok none ↔ reg.conversations.lookup groupIdHex = none := by
  unfold openConversation
  cases h : reg.conversations.lookup groupIdHex with
  | none => simp
  | some file => cases file <;> simp [Except.map, readConversation, Except.mapError]

theorem onDisk_eq_some :
    reg.onDisk groupIdHex = some conv ↔
      reg.conversations.lookup groupIdHex = some (.ok conv) := by
  unfold onDisk
  split <;> simp_all

theorem mem_files :
    .ok conv ∈ reg.files ↔ ∃ groupIdHex, reg.onDisk groupIdHex = some conv := by
  simp only [files, List.mem_map, onDisk_eq_some]
  constructor
  · rintro ⟨⟨groupIdHex, file⟩, mem, rfl⟩
    exact ⟨groupIdHex, AList.mem_lookup_iff.mpr mem⟩
  · rintro ⟨groupIdHex, found⟩
    exact ⟨⟨groupIdHex, .ok conv⟩, AList.mem_lookup_iff.mp found, rfl⟩

theorem stored_of_cached (h : reg.byGroupId.lookup groupIdHex = some conv) :
    reg.stored groupIdHex = some conv := by
  simp [stored, h]

theorem lookup_insert (map : Map String α) (key query : String) (value : α) :
    (map.insert key value).lookup query = if query = key then some value else map.lookup query := by
  by_cases h : query = key
  · subst h
    simp
  · simp [h]

section
variable (reg : Registry)

@[simp] theorem stored_refreshPubkeyCache (conv : Conversation) :
    (reg.refreshPubkeyCache conv).stored = reg.stored := rfl

theorem stored_cacheInsert (groupIdHex : String) (conv : Conversation) :
    (reg.cacheInsert groupIdHex conv).stored =
      update reg.stored groupIdHex (some conv) := by
  funext query
  unfold stored cacheInsert
  simp only [lookup_insert, update_apply]
  split
  · rfl
  · rfl

theorem stored_enter (groupIdHex : String) (conv : Conversation) :
    (reg.enter groupIdHex conv).stored = update reg.stored groupIdHex (some conv) :=
  stored_cacheInsert _ groupIdHex conv

theorem stored_writeBack (groupIdHex : String) (conv : Conversation) :
    (reg.writeBack groupIdHex conv).stored =
      update reg.stored groupIdHex (some conv) := by
  unfold writeBack
  rw [stored_cacheInsert]
  funext query
  simp only [update_apply]
  split
  · rfl
  · rename_i h
    simp [stored, onDisk, sealFile, h]

theorem stored_save (conv : Conversation) :
    (reg.save conv none).2.stored = update reg.stored conv.groupIdHex (some conv) :=
  stored_writeBack reg conv.groupIdHex conv

end

def Known (reg : Registry) (groupIdHex : String) : Prop :=
  (reg.byGroupId.lookup groupIdHex).isSome ∨ (reg.conversations.lookup groupIdHex).isSome

theorem known_of_stored (h : reg.stored groupIdHex = some conv) : reg.Known groupIdHex := by
  unfold stored at h
  cases hc : reg.byGroupId.lookup groupIdHex with
  | some cached => exact .inl (by simp [hc])
  | none =>
    rw [hc] at h
    exact .inr (by simp [onDisk_eq_some.mp h])

inductive GetSpec (reg : Registry) (groupIdHex : String) :
    Except ChatError (Option Conversation) × Registry → Prop
  | failed (error : ChatError) (known : reg.Known groupIdHex)
      (unstored : reg.stored groupIdHex = none) : GetSpec reg groupIdHex (.error error, reg)
  | absent (unknown : ¬ reg.Known groupIdHex) (unstored : reg.stored groupIdHex = none) :
      GetSpec reg groupIdHex (.ok none, reg)
  | found (conv : Conversation) (after : Registry) (known : reg.Known groupIdHex)
      (stored : reg.stored groupIdHex = some conv)
      (cached : after.byGroupId.lookup groupIdHex = some conv)
      (same : after.stored = reg.stored) : GetSpec reg groupIdHex (.ok (some conv), after)

theorem get_spec (reg : Registry) (groupIdHex : String) :
    GetSpec reg groupIdHex (reg.get groupIdHex) := by
  unfold get
  cases hc : reg.byGroupId.lookup groupIdHex with
  | some conv =>
    exact .found conv reg (.inl (by simp [hc])) (stored_of_cached hc) hc rfl
  | none =>
    cases hf : reg.conversations.lookup groupIdHex with
    | none =>
      simp only [openConversation, hf]
      exact .absent (by simp [Known, hc, hf]) (by simp [stored, onDisk, hc, hf])
    | some file =>
      have known : reg.Known groupIdHex := .inr (by simp [hf])
      cases file with
      | error error =>
        simp only [openConversation, hf]
        exact .failed _ known (by simp [stored, onDisk, hc, hf])
      | ok conv =>
        simp only [openConversation, hf]
        have hs : reg.stored groupIdHex = some conv := by simp [stored, onDisk, hc, hf]
        refine .found conv _ known hs (by simp [enter, cacheInsert]) ?_
        rw [stored_enter]
        exact update_eq_self_iff.mpr hs.symm

theorem hydrate_of_cached (h : reg.byGroupId.lookup groupIdHex = some conv)
    (missing : Except ChatError Conversation) :
    reg.hydrate groupIdHex missing = (.ok conv, reg) := by
  simp [hydrate, h]

section
variable {α : Type} {value : α} {mutate : Conversation → MutateAction α × Conversation}
  {missing : Except ChatError Conversation} {after : Registry → Conversation → Registry}
  (cached : reg.byGroupId.lookup groupIdHex = some conv)
include cached

theorem mutateLocked_skip (hm : mutate conv = (.skip value, conv')) (fault : Option ChatError) :
    reg.mutateLocked groupIdHex missing fault mutate after = (.ok value, reg) := by
  simp [mutateLocked, hydrate_of_cached cached, hm]

theorem mutateLocked_fault (hm : mutate conv = (.persist value, conv')) (error : ChatError) :
    reg.mutateLocked groupIdHex missing (some error) mutate after = (.error error, reg) := by
  simp [mutateLocked, hydrate_of_cached cached, hm]

theorem mutateLocked_persist (hm : mutate conv = (.persist value, conv')) :
    reg.mutateLocked groupIdHex missing none mutate after =
      (.ok value, after (reg.writeBack groupIdHex conv') conv') := by
  simp [mutateLocked, hydrate_of_cached cached, hm]

end

def Caches (reg : Registry) (groupIdHex : String) (property : Conversation → Prop) : Prop :=
  ∃ conv, reg.byGroupId.lookup groupIdHex = some conv ∧ property conv

theorem Caches.mutateLocked
    (h : reg.Caches groupIdHex property) {mutate : Conversation → MutateAction α × Conversation}
    (keeps : ∀ conv, property conv → property (mutate conv).2)
    (quiet : ∀ reg conv, (after reg conv).byGroupId = reg.byGroupId)
    (missing : Except ChatError Conversation) (fault : Option ChatError) :
    (reg.mutateLocked groupIdHex missing fault mutate after).2.Caches groupIdHex property := by
  obtain ⟨conv, cached, holds⟩ := h
  rcases hm : mutate conv with ⟨action, conv'⟩
  cases action with
  | skip value =>
    rw [mutateLocked_skip cached hm]
    exact ⟨conv, cached, holds⟩
  | persist value =>
    cases fault with
    | some error =>
      rw [mutateLocked_fault cached hm]
      exact ⟨conv, cached, holds⟩
    | none =>
      rw [mutateLocked_persist cached hm]
      refine ⟨conv', ?_, by simpa [hm] using keeps conv holds⟩
      rw [quiet]
      exact AList.lookup_insert _

/-- An invariant of the registry that every atomic section keeps. The conversations it holds
are filed under their own group id and are fine, in a sense that the closures of the mutating
calls must respect. -/
structure Invariant (fine : Conversation → Prop) (holds : Registry → Prop) : Prop where
  fine_members : ∀ {conv conv' : Conversation}, conv'.members = conv.members → fine conv →
    fine conv'
  cached : ∀ {reg groupIdHex conv}, holds reg →
    reg.byGroupId.lookup groupIdHex = some conv → conv.groupIdHex = groupIdHex ∧ fine conv
  filed : ∀ {reg groupIdHex conv}, holds reg →
    reg.onDisk groupIdHex = some conv → conv.groupIdHex = groupIdHex ∧ fine conv
  refresh : ∀ {reg conv}, holds reg → fine conv → holds (reg.refreshPubkeyCache conv)
  hydrate : ∀ {reg groupIdHex conv}, holds reg → reg.byGroupId.lookup groupIdHex = none →
    reg.onDisk groupIdHex = some conv → holds (reg.cacheInsert groupIdHex conv)
  bootstrap : ∀ {reg conv}, holds reg → reg.byGroupId.lookup conv.groupIdHex = none →
    reg.conversations.lookup conv.groupIdHex = none → fine conv →
      holds (reg.cacheInsert conv.groupIdHex conv)
  write : ∀ {reg conv}, holds reg → fine conv → holds (reg.writeBack conv.groupIdHex conv)
  contacts : ∀ {reg}, holds reg → ∀ contacts, holds { reg with contacts := contacts }

def Respects {α : Type} (fine : Conversation → Prop)
    (mutate : Conversation → MutateAction α × Conversation) : Prop :=
  ∀ conv, fine conv → (mutate conv).2.groupIdHex = conv.groupIdHex ∧ fine (mutate conv).2

namespace Invariant

variable {fine : Conversation → Prop} {holds : Registry → Prop} (rule : Invariant fine holds)
include rule

variable {reg : Registry} {groupIdHex : String}

section
variable (h : holds reg)
include h

theorem enter (cold : reg.byGroupId.lookup groupIdHex = none)
    (filed : reg.onDisk groupIdHex = some conv) :
    holds (reg.enter groupIdHex conv) :=
  rule.hydrate (rule.refresh h (rule.filed h filed).2) cold filed

theorem get (groupIdHex : String) :
    holds (reg.get groupIdHex).2 := by
  unfold Registry.get
  split
  · exact h
  · rename_i cold
    split
    · exact h
    · exact h
    · rename_i conv opened
      exact rule.enter h cold (onDisk_eq_some.mpr (openConversation_eq_some.mp opened))

theorem save (ok : fine conv) (fault : Option ChatError) :
    holds (reg.save conv fault).2 := by
  cases fault with
  | some error => exact h
  | none => exact rule.refresh (rule.write h ok) ok

theorem hydrated (shell : ∀ conv, missing = .ok conv → conv.groupIdHex = groupIdHex ∧ fine conv) :
    holds (reg.hydrate groupIdHex missing).2 ∧
      ∀ conv, (reg.hydrate groupIdHex missing).1 = .ok conv →
        conv.groupIdHex = groupIdHex ∧ fine conv := by
  unfold Registry.hydrate
  split
  · rename_i conv cached
    refine ⟨h, ?_⟩
    intro conv' same
    cases same
    exact rule.cached h cached
  · rename_i cold
    split
    · exact ⟨h, by simp⟩
    · rename_i conv opened
      have filed := onDisk_eq_some.mpr (openConversation_eq_some.mp opened)
      refine ⟨rule.enter h cold filed, ?_⟩
      intro conv' same
      cases same
      exact rule.filed h filed
    · rename_i opened
      split
      · exact ⟨h, by simp⟩
      · rename_i conv
        obtain ⟨rfl, ok⟩ := shell conv rfl
        refine ⟨?_, ?_⟩
        · exact rule.bootstrap (rule.refresh h ok) cold (openConversation_eq_none.mp opened) ok
        · intro conv' same
          cases same
          exact ⟨rfl, ok⟩

theorem mutateLocked (shell : ∀ conv, missing = .ok conv → conv.groupIdHex = groupIdHex ∧ fine conv)
    (respects : Respects fine mutate)
    (finish : ∀ {reg conv}, holds reg → fine conv → holds (after reg conv))
    (fault : Option ChatError) :
    holds (reg.mutateLocked groupIdHex missing fault mutate after).2 := by
  have start := rule.hydrated h shell
  unfold Registry.mutateLocked
  rcases hh : reg.hydrate groupIdHex missing with ⟨result, hydrated⟩
  rw [hh] at start
  cases result with
  | error error => exact start.1
  | ok conv =>
    obtain ⟨named, ok⟩ := start.2 conv rfl
    have kept := respects conv ok
    dsimp only
    split
    · exact start.1
    · rename_i value conv' hm
      rw [hm] at kept
      cases fault with
      | some error => exact start.1
      | none =>
        refine finish ?_ kept.2
        rw [← named, ← kept.1]
        exact rule.write start.1 kept.2

theorem mutateInPlace (respects : Respects fine mutate) (groupIdHex : String)
    (fault : Option ChatError) :
    holds (reg.mutateInPlace groupIdHex fault mutate).2 :=
  rule.mutateLocked h (by simp) respects rule.refresh fault

theorem mutateInPlaceOrInit (ok : fine init)
    (respects : Respects fine mutate) (fault : Option ChatError) :
    holds (reg.mutateInPlaceOrInit init.groupIdHex init fault mutate).2 := by
  refine rule.mutateLocked h ?_ respects rule.refresh fault
  intro conv same
  cases same
  exact ⟨rfl, ok⟩

end

theorem respects_of_members {mutate : Conversation → MutateAction α × Conversation}
    (same : ∀ conv, (mutate conv).2.groupIdHex = conv.groupIdHex ∧
      (mutate conv).2.members = conv.members) : Respects fine mutate :=
  fun conv ok => ⟨(same conv).1, rule.fine_members (same conv).2 ok⟩

theorem noteWedgeProgress (h : holds reg) (groupIdHex : String) (now : Nat)
    (fault : Option ChatError) : holds (reg.noteWedgeProgress groupIdHex now fault) :=
  rule.mutateInPlace h (rule.respects_of_members fun _ => ⟨rfl, rfl⟩) groupIdHex fault

theorem noteWedgeInbound (h : holds reg) (groupIdHex : String) (frameEpoch : Option Nat) (now : Nat)
    (fault : Option ChatError) :
    holds (reg.noteWedgeInbound groupIdHex frameEpoch now fault) :=
  rule.mutateInPlace h (rule.respects_of_members fun _ => ⟨rfl, rfl⟩) groupIdHex fault

theorem recordNonce (h : holds reg) (groupIdHex senderAgentHex : String) (nonce : Nonce)
    (fault : Option ChatError) :
    holds (reg.recordNonce groupIdHex senderAgentHex nonce fault).2 :=
  rule.mutateLocked h (by simp) (rule.respects_of_members (recordNonceAction_members _ _))
    (fun h _ => h) fault

theorem recordDelivery (h : holds reg) (groupIdHex messageId : String) (receivedAtMs : Nat)
    (fault : Option ChatError) :
    holds (reg.recordDelivery groupIdHex messageId receivedAtMs fault).2 :=
  rule.mutateLocked h (by simp) (rule.respects_of_members (recordDeliveryAction_members _ _))
    (fun h _ => h) fault

theorem scanFiles (peerAgentIdHex : String) (candidates : List Conversation)
    {files : List (File ChatError Conversation)} (h : holds reg)
    (listed : ∀ conv, .ok conv ∈ files → ∃ groupIdHex, reg.onDisk groupIdHex = some conv) :
    holds (reg.scanFiles peerAgentIdHex candidates files).2 := by
  induction files generalizing reg candidates with
  | nil => exact h
  | cons file files ih =>
    unfold Registry.scanFiles
    cases file with
    | error error => exact h
    | ok conv =>
      have rest : ∀ conv, .ok conv ∈ files → ∃ groupIdHex, reg.onDisk groupIdHex = some conv :=
        fun conv mem => listed conv (List.mem_cons_of_mem _ mem)
      simp only [readConversation, Except.mapError]
      split
      · obtain ⟨groupIdHex, filed⟩ := listed conv List.mem_cons_self
        obtain ⟨rfl, ok⟩ := rule.filed h filed
        have refreshed := rule.refresh h ok
        unfold Registry.cacheOrInsert
        split
        · exact ih _ refreshed rest
        · rename_i cold
          exact ih _ (rule.hydrate refreshed cold filed) rest
      · exact ih _ h rest

theorem findDmWith (h : holds reg) (peerAgentIdHex : String) :
    holds (reg.findDmWith peerAgentIdHex).2 :=
  rule.scanFiles peerAgentIdHex _ h fun _ => mem_files.mp

end Invariant

end Registry

end Fetchit.Chat
