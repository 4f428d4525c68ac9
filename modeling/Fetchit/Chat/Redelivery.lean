import Fetchit.Chat.Interleaving

/-! Deliveries and redeliveries of messages and receipts. `dispatch_message` and
`dispatch_receipt` are cut at their waits: the nonce of a frame and the history entry of its
message are sealed by two different steps. Of the files only the history and the nonce windows
matter here, and every step has one of four effects on them. -/
namespace Fetchit.Chat.Redelivery
open Lib Lib.Run Proto.Identity Proto.Envelope Function

structure Frame where
  groupId : GroupId
  envelope : TransitEnvelope
  deriving DecidableEq

namespace Frame

def groupIdHex (frame : Frame) : String := hexId frame.groupId

def senderHex (frame : Frame) : String := hexId frame.envelope.senderAgentId

def isReceipt (frame : Frame) : Bool := frame.envelope.kind == .deliveryReceipt

def dispatch (crypto : ChatCrypto) (env : DispatchEnv) (reg : Registry) (frame : Frame) :
    Except ChatError InboundDispatch × Registry :=
  if frame.isReceipt then dispatchReceipt crypto env reg frame.envelope frame.groupId
  else dispatchMessage crypto env reg frame.envelope frame.groupId

def message (crypto : ChatCrypto) (frame : Frame) (plaintext : Bytes) : Option HistoryEntry :=
  if frame.isReceipt then none
  else (crypto.parseMessage plaintext).toOption.map (·.stripInvalid.entry frame.senderHex)

def SharesNonce (frame other : Frame) : Prop :=
  frame.groupId = other.groupId ∧ frame.envelope.senderAgentId = other.envelope.senderAgentId ∧
    frame.envelope.nonce = other.envelope.nonce

instance (frame other : Frame) : Decidable (frame.SharesNonce other) :=
  inferInstanceAs (Decidable (_ ∧ _ ∧ _))

end Frame

/-- Where a dispatch stands between two of its waits. -/
inductive Stage where
  | looking
  | reading
  | inserting (conv : Conversation)
  | found (conv : Conversation)
  | stale
  | unopened
  | opened (plaintext : Bytes)
  | parsed (payload : MessagePayload)
  | hinted (payload : MessagePayload)
  | received (payload : DeliveryReceiptPayload)
  | done (result : Except ChatError InboundDispatch)

def appendHistory (reg : Registry) (groupIdHex : String) (entry : HistoryEntry)
    (fault : Option ChatError) : Except ChatError Unit × Registry :=
  reg.mutateInPlace groupIdHex fault fun conv => (.persist (), conv.pushHistory entry)

def record (crypto : ChatCrypto) (env : DispatchEnv) (frame : Frame) (reg : Registry)
    (conv : Conversation) : Stage × Registry :=
  match conv.keyForEpoch crypto.base64Error env.keyClock frame.envelope.epoch with
  | .error error => (.done (.error error), reg)
  | .ok none => (.stale, reg)
  | .ok (some key) =>
    match parseNonce frame.envelope.nonce with
    | .error error => (.done (.error error), reg)
    | .ok nonce =>
      match reg.recordNonce frame.groupIdHex frame.senderHex nonce env.nonceFault with
      | (.error error, reg) => (.done (.error error), reg)
      | (.ok .replay, reg) =>
        (.done (.ok (.replayDetected frame.groupIdHex frame.senderHex)), reg)
      | (.ok .recorded, reg) =>
        match crypto.aeadOpen key nonce frame.envelope.ciphertext
            (messageAad frame.groupId frame.envelope.epoch) with
        | none => (.unopened, reg)
        | some plaintext => (.opened plaintext, reg)

namespace Stage

def step (crypto : ChatCrypto) (env : DispatchEnv) (frame : Frame) (reg : Registry) :
    Stage → Stage × Registry
  | .looking =>
    match reg.byGroupId.lookup frame.groupIdHex with
    | some conv => (.found conv, reg)
    | none => (.reading, reg)
  | .reading =>
    match reg.openConversation frame.groupIdHex with
    | .error error => (.done (.error error), reg)
    | .ok none => (.done (.ok (.staleEpoch frame.groupIdHex frame.envelope.epoch)), reg)
    | .ok (some conv) => (.inserting conv, reg)
  | .inserting conv => (.found conv, reg.enter frame.groupIdHex conv)
  | .found conv => record crypto env frame reg conv
  | .stale =>
    (.done (.ok (.staleEpoch frame.groupIdHex frame.envelope.epoch)),
      reg.noteWedgeInbound frame.groupIdHex (some frame.envelope.epoch) env.wedgeClock
        env.wedgeFault)
  | .unopened =>
    (.done (.ok (.aeadOpenFailed frame.groupIdHex frame.envelope.epoch)),
      reg.noteWedgeInbound frame.groupIdHex (some frame.envelope.epoch) env.wedgeClock
        env.wedgeFault)
  | .opened plaintext =>
    let reg := reg.noteWedgeProgress frame.groupIdHex env.wedgeClock env.wedgeFault
    if frame.isReceipt then
      match crypto.parseReceipt plaintext with
      | .error reason => (.done (.error (.invalid s!"receipt payload parse: {reason}")), reg)
      | .ok payload => (.received payload, reg)
    else
      match crypto.parseMessage plaintext with
      | .error reason => (.done (.error (.invalid s!"message payload parse: {reason}")), reg)
      | .ok payload => (.parsed payload.stripInvalid, reg)
  | .parsed payload =>
    (.hinted payload, reg.refreshHints crypto frame.senderHex payload env.hintFault)
  | .hinted payload =>
    (.done (.ok (.message frame.groupIdHex frame.senderHex payload)),
      (appendHistory reg frame.groupIdHex (payload.entry frame.senderHex) env.historyFault).2)
  | .received payload =>
    (.done (.ok (.receipt frame.groupIdHex frame.senderHex payload.messageId
      payload.receivedAtMs)),
      (reg.recordDelivery frame.groupIdHex payload.messageId payload.receivedAtMs
        env.deliveryFault).2)
  | .done result => (.done result, reg)

def midway : Stage → Bool
  | .opened _ => true
  | .parsed _ => true
  | .hinted _ => true
  | _ => false

def carries (crypto : ChatCrypto) (frame : Frame) : Stage → Option HistoryEntry
  | .opened plaintext => frame.message crypto plaintext
  | .parsed payload => some (payload.entry frame.senderHex)
  | .hinted payload => some (payload.entry frame.senderHex)
  | _ => none

theorem carries_of_not_midway {stage : Stage}
    (away : stage.midway = false) : stage.carries crypto frame = none := by
  cases stage <;> first | rfl | cases away

end Stage

def soloStep (crypto : ChatCrypto) (env : DispatchEnv) (frame : Frame)
    (state : Stage × Registry) (_ : Unit) : Stage × Registry :=
  state.1.step crypto env frame state.2

section
variable (crypto : ChatCrypto) (env : DispatchEnv) (frame : Frame)

theorem solo_done (result : Except ChatError InboundDispatch) (reg : Registry) (turns : List Unit) :
    run (soloStep crypto env frame) (.done result, reg) turns = (.done result, reg) := by
  induction turns with
  | nil => rfl
  | cons turn turns ih => exact ih

theorem solo_found (got : reg.get frame.groupIdHex = (.ok (some conv), after)) :
    run (soloStep crypto env frame) (.found conv, after) [(), (), (), ()] =
      (frame.dispatch crypto env reg).map .done id := by
  change run _ (record crypto env frame after conv) [(), (), ()] = _
  unfold Frame.dispatch dispatchReceipt dispatchMessage openFrame record
  change reg.get (hexId frame.groupId) = _ at got
  simp only [got, Frame.groupIdHex, Frame.senderHex]
  cases conv.keyForEpoch crypto.base64Error env.keyClock frame.envelope.epoch with
  | error error => cases frame.isReceipt <;> rfl
  | ok held =>
    cases held with
    | none => cases frame.isReceipt <;> rfl
    | some key =>
      cases parseNonce frame.envelope.nonce with
      | error error => cases frame.isReceipt <;> rfl
      | ok nonce =>
        dsimp only
        generalize after.recordNonce (hexId frame.groupId) (hexId frame.envelope.senderAgentId)
          nonce env.nonceFault = recorded
        obtain ⟨result, noted⟩ := recorded
        cases result with
        | error error => cases frame.isReceipt <;> rfl
        | ok outcome =>
          cases outcome with
          | replay => cases frame.isReceipt <;> rfl
          | recorded =>
            cases crypto.aeadOpen key nonce frame.envelope.ciphertext
                (messageAad frame.groupId frame.envelope.epoch) with
            | none => cases frame.isReceipt <;> rfl
            | some plaintext =>
              simp only [run_cons, soloStep, Stage.step]
              cases frame.isReceipt with
              | true => cases crypto.parseReceipt plaintext <;> rfl
              | false => cases crypto.parseMessage plaintext <;> rfl

theorem dispatch_of_get_error (got : reg.get frame.groupIdHex = (.error error, reg)) :
    frame.dispatch crypto env reg = (.error error, reg) := by
  change reg.get (hexId frame.groupId) = _ at got
  simp [Frame.dispatch, dispatchReceipt, dispatchMessage, openFrame, got]

theorem dispatch_of_get_none (got : reg.get frame.groupIdHex = (.ok none, reg)) :
    frame.dispatch crypto env reg =
      (.ok (.staleEpoch frame.groupIdHex frame.envelope.epoch), reg) := by
  change reg.get (hexId frame.groupId) = _ at got
  simp [Frame.dispatch, dispatchReceipt, dispatchMessage, openFrame, got, Frame.groupIdHex]

theorem solo_dispatch (reg : Registry) :
    run (soloStep crypto env frame) (.looking, reg) (List.replicate 7 ()) =
      (frame.dispatch crypto env reg).map .done id := by
  cases cached : reg.byGroupId.lookup frame.groupIdHex with
  | some conv =>
    have got : reg.get frame.groupIdHex = (.ok (some conv), reg) := by
      simp [Registry.get, cached]
    have first : soloStep crypto env frame (.looking, reg) () = (.found conv, reg) := by
      simp [soloStep, Stage.step, cached]
    change run _ (soloStep crypto env frame (.looking, reg) ()) ([(), (), (), ()] ++ [(), ()]) = _
    rw [first, run_append, solo_found crypto env frame got]
    exact solo_done crypto env frame _ _ _
  | none =>
    have first : soloStep crypto env frame (.looking, reg) () = (.reading, reg) := by
      simp [soloStep, Stage.step, cached]
    change run _ (soloStep crypto env frame (.looking, reg) ()) (() :: () :: [(), (), (), ()]) = _
    rw [first]
    cases opened : reg.openConversation frame.groupIdHex with
    | error error =>
      have got : reg.get frame.groupIdHex = (.error error, reg) := by
        simp [Registry.get, cached, opened]
      have second : soloStep crypto env frame (.reading, reg) () = (.done (.error error), reg) := by
        simp [soloStep, Stage.step, opened]
      rw [run_cons, second, dispatch_of_get_error crypto env frame got]
      rfl
    | ok file =>
      cases file with
      | none =>
        have got : reg.get frame.groupIdHex = (.ok none, reg) := by
          simp [Registry.get, cached, opened]
        have second : soloStep crypto env frame (.reading, reg) () =
            (.done (.ok (.staleEpoch frame.groupIdHex frame.envelope.epoch)), reg) := by
          simp [soloStep, Stage.step, opened]
        rw [run_cons, second, dispatch_of_get_none crypto env frame got]
        rfl
      | some conv =>
        have got : reg.get frame.groupIdHex =
            (.ok (some conv), reg.enter frame.groupIdHex conv) := by
          simp [Registry.get, cached, opened]
        have second : soloStep crypto env frame (.reading, reg) () = (.inserting conv, reg) := by
          simp [soloStep, Stage.step, opened]
        rw [run_cons, second, run_cons]
        exact solo_found crypto env frame got

end

def content (entry : HistoryEntry) : HistoryEntry :=
  { entry with deliveredAtMs := none, sendState := none, stateChangedAtMs := 0 }

/-- The part of a conversation that deliveries are judged by. -/
structure Shelved where
  messages : List HistoryEntry
  window : String → List Nonce

namespace Shelved

def push (shelved : Shelved) (entry : HistoryEntry) : Shelved where
  messages := (if shelved.messages.length ≥ historyCap then shelved.messages.drop 1
    else shelved.messages) ++ [content entry]
  window := shelved.window

def note (shelved : Shelved) (senderHex : String) (nonce : Nonce) : Shelved where
  messages := shelved.messages
  window := update shelved.window senderHex
    (Conversation.pushNonce (shelved.window senderHex) nonce)

theorem mem_window_note {shelved : Shelved} {senderHex other : String}
    (mem : seen ∈ (shelved.note senderHex nonce).window other) :
    seen ∈ shelved.window other ∨ other = senderHex ∧ seen = nonce := by
  change seen ∈ update shelved.window senderHex _ other at mem
  by_cases same : other = senderHex
  · subst same
    rw [update_self] at mem
    rcases List.mem_append.mp mem with kept | added
    · split at kept
      · exact .inl (List.mem_of_mem_drop kept)
      · exact .inl kept
    · exact .inr ⟨rfl, List.mem_singleton.mp added⟩
  · rw [update_of_ne same] at mem
    exact .inl mem

end Shelved

def messages (conv : Conversation) : List HistoryEntry := conv.history.map content

def shelve (conv : Conversation) : Shelved := ⟨messages conv, conv.nonceWindow⟩

theorem shelve_pushHistory (conv : Conversation) (entry : HistoryEntry) :
    shelve (conv.pushHistory entry) = (shelve conv).push entry := by
  unfold shelve Shelved.push
  congr 1
  simp only [messages, Conversation.pushHistory, List.length_map]
  split <;> simp

theorem content_deliverNewestFirst
    (marks : deliverNewestFirst messageId receivedAtMs entries = some marked) :
    marked.map content = entries.map content := by
  induction entries generalizing marked with
  | nil => cases marks
  | cons entry older ih =>
    unfold deliverNewestFirst at marks
    split at marks
    · split at marks
      · cases marks
      · cases marks
        rfl
    · obtain ⟨rest, found, rfl⟩ := Option.map_eq_some_iff.mp marks
      rw [List.map_cons, List.map_cons, ih found]

theorem shelve_recordDelivery (messageId : String) (receivedAtMs : Nat) (conv : Conversation) :
    shelve (recordDeliveryAction messageId receivedAtMs conv).2 = shelve conv := by
  unfold recordDeliveryAction Conversation.applyDeliveryReceipt
  split
  · rename_i newestFirst marks
    have same := content_deliverNewestFirst marks
    rw [List.map_reverse] at same
    unfold shelve messages
    rw [List.map_reverse, same, List.reverse_reverse]
    rfl
  · rfl

theorem shelve_resolveRekey (env : DispatchEnv) (envelope : TransitEnvelope)
    (payload : WelcomePayload) (senderAgentHex : String) (conv : Conversation) :
    shelve (conv.resolveRekey env envelope payload senderAgentHex).2 = shelve conv := by
  unfold Conversation.resolveRekey
  split
  · rfl
  · split <;> rfl

theorem nonceWindow_insert (conv : Conversation) (senderHex : String) (window : List Nonce) :
    Conversation.nonceWindow { conv with seenNonces := conv.seenNonces.insert senderHex window } =
      update conv.nonceWindow senderHex window := by
  funext other
  unfold Conversation.nonceWindow
  rw [Registry.lookup_insert, update_apply]
  split <;> rfl

theorem recordNonceAction_cases (senderHex : String) (nonce : Nonce) (conv : Conversation) :
    nonce ∈ (shelve conv).window senderHex ∧
        (recordNonceAction senderHex nonce conv).1 = .skip .replay ∨
      (recordNonceAction senderHex nonce conv).1 = .persist .recorded ∧
        shelve (recordNonceAction senderHex nonce conv).2 = (shelve conv).note senderHex nonce := by
  unfold recordNonceAction Conversation.checkAndRecordNonce
  dsimp only
  split
  · rename_i seen
    exact .inl ⟨List.contains_iff_mem.mp seen, rfl⟩
  · right
    refine ⟨rfl, ?_⟩
    unfold shelve Shelved.note
    rw [nonceWindow_insert]
    rfl

end Fetchit.Chat.Redelivery

namespace Fetchit.Chat.Registry
open Lib Function

def Synced (reg : Registry) : Prop :=
  ∀ groupIdHex conv, reg.byGroupId.lookup groupIdHex = some conv →
    reg.onDisk groupIdHex = some conv

theorem onDisk_eq_read (reg : Registry) (groupIdHex : String) :
    reg.onDisk groupIdHex = (reg.cell groupIdHex).disk.read := by
  unfold onDisk cell slot
  cases reg.conversations.lookup groupIdHex with
  | none => rfl
  | some file => cases file <;> rfl

theorem onDisk_of_filled {reg after : Registry} {groupIdHex : String}
    (filled : after.cell =
      update reg.cell groupIdHex ((reg.cell groupIdHex).fill conv)) :
    after.onDisk = reg.onDisk := by
  funext query
  rw [onDisk_eq_read, onDisk_eq_read, filled]
  by_cases same : query = groupIdHex
  · subst same
    rw [update_self]
    rfl
  · rw [update_of_ne same]

theorem onDisk_of_written {reg after : Registry} {groupIdHex : String}
    (written : after.cell = update reg.cell groupIdHex ⟨some conv, .holds conv⟩) :
    after.onDisk = update reg.onDisk groupIdHex (some conv) := by
  funext query
  rw [onDisk_eq_read, written]
  by_cases same : query = groupIdHex
  · subst same
    rw [update_self, update_self]
    rfl
  · rw [update_of_ne same, update_of_ne same, onDisk_eq_read]

namespace Synced
variable {reg : Registry} (synced : reg.Synced)
include synced

theorem base_eq (groupIdHex : String) :
    (reg.cell groupIdHex).base none = reg.onDisk groupIdHex := by
  cases cached : reg.byGroupId.lookup groupIdHex with
  | some conv =>
    rw [synced groupIdHex conv cached]
    simp [Cell.base, cell, cached]
  | none =>
    rw [onDisk_eq_read]
    simp only [cell, cached]
    cases reg.slot groupIdHex <;> rfl

theorem filled {after : Registry} {groupIdHex : String} (stored : reg.onDisk groupIdHex = some conv)
    (filled : after.cell =
      update reg.cell groupIdHex ((reg.cell groupIdHex).fill conv)) :
    after.Synced := by
  intro query other cached
  rw [onDisk_of_filled filled]
  change (after.cell query).cached = some other at cached
  rw [filled] at cached
  by_cases same : query = groupIdHex
  · subst same
    rw [update_self] at cached
    cases cached
    exact stored
  · rw [update_of_ne same] at cached
    exact synced query other cached

theorem written {after : Registry} {groupIdHex : String}
    (written : after.cell = update reg.cell groupIdHex ⟨some conv, .holds conv⟩) :
    after.Synced := by
  intro query other cached
  rw [onDisk_of_written written]
  change (after.cell query).cached = some other at cached
  rw [written] at cached
  by_cases same : query = groupIdHex
  · subst same
    rw [update_self] at cached ⊢
    exact cached
  · rw [update_of_ne same] at cached ⊢
    exact synced query other cached

end Synced

/-- The outcomes of a locked mutation that needs a conversation, while cache and files agree. -/
inductive LockedSpec {α : Type} (reg : Registry) (groupIdHex : String) (fault : Option ChatError)
    (mutate : Conversation → MutateAction α × Conversation) : Except ChatError α × Registry → Prop
  | refused (error : ChatError) (after : Registry) (synced : after.Synced)
      (same : after.onDisk = reg.onDisk) (cause : fault ≠ none ∨ reg.onDisk groupIdHex = none) :
      LockedSpec reg groupIdHex fault mutate (.error error, after)
  | skipped (conv : Conversation) (value : α) (after : Registry) (synced : after.Synced)
      (same : after.onDisk = reg.onDisk) (stored : reg.onDisk groupIdHex = some conv)
      (skips : (mutate conv).1 = .skip value) :
      LockedSpec reg groupIdHex fault mutate (.ok value, after)
  | sealed (conv : Conversation) (value : α) (after : Registry) (synced : after.Synced)
      (written : after.onDisk =
        update reg.onDisk groupIdHex (some (mutate conv).2))
      (stored : reg.onDisk groupIdHex = some conv) (persists : (mutate conv).1 = .persist value) :
      LockedSpec reg groupIdHex fault mutate (.ok value, after)

theorem Synced.locked_spec (synced : reg.Synced) (groupIdHex : String) (reason : ChatError)
    (fault : Option ChatError) (mutate : Conversation → MutateAction α × Conversation)
    (after : Registry → Conversation → Registry)
    (quiet : ∀ reg conv, (after reg conv).cell = reg.cell) :
    LockedSpec reg groupIdHex fault mutate
      (reg.mutateLocked groupIdHex (.error reason) fault mutate after) := by
  generalize outcome : reg.mutateLocked groupIdHex (.error reason) fault mutate after = result
  have spec := outcome ▸ mutateLocked_spec reg groupIdHex (.error reason) fault mutate quiet
  have base : (reg.cell groupIdHex).base
      (.error reason : Except ChatError Conversation).toOption = reg.onDisk groupIdHex :=
    synced.base_eq groupIdHex
  cases spec with
  | failed error nothing => exact .refused error reg synced rfl (.inr (base ▸ nothing))
  | skipped conv conv' value hydrated started skips filled =>
    have stored := base.symm.trans started
    exact .skipped conv value hydrated (synced.filled stored filled) (onDisk_of_filled filled)
      stored (by rw [skips])
  | unsealed conv conv' value error hydrated started persists refused filled =>
    have stored := base.symm.trans started
    exact .refused error hydrated (synced.filled stored filled) (onDisk_of_filled filled)
      (.inl (by simp [refused]))
  | committed conv conv' value sealedReg started persists ok written =>
    have stored := base.symm.trans started
    refine .sealed conv value sealedReg (synced.written written) ?_ stored (by rw [persists])
    rw [persists]
    exact onDisk_of_written written

end Fetchit.Chat.Registry

namespace Fetchit.Chat.Redelivery
open Lib Lib.Run Proto.Identity Proto.Envelope Function

def shelf (reg : Registry) (groupIdHex : String) : Option Shelved :=
  (reg.onDisk groupIdHex).map shelve

theorem shelf_congr (same : after.onDisk = reg.onDisk) :
    shelf after = shelf reg := by
  funext groupIdHex
  rw [shelf, same, shelf]

theorem shelf_written {groupIdHex : String}
    (written : after.onDisk = update reg.onDisk groupIdHex (some conv)) :
    shelf after = update (shelf reg) groupIdHex (some (shelve conv)) := by
  funext query
  rw [shelf, written]
  by_cases same : query = groupIdHex
  · subst same
    rw [update_self, update_self]
    rfl
  · rw [update_of_ne same, update_of_ne same, shelf]

def Quiet (reg after : Registry) : Prop :=
  after.Synced ∧ shelf after = shelf reg

section
variable {reg : Registry} (synced : reg.Synced)
include synced

section
variable (groupIdHex : String)

theorem quiet_mutateLocked (reason : ChatError)
    (fault : Option ChatError) {mutate : Conversation → MutateAction α × Conversation}
    (keeps : ∀ conv, shelve (mutate conv).2 = shelve conv)
    (unseen : ∀ reg conv, (after reg conv).cell = reg.cell) :
    Quiet reg (reg.mutateLocked groupIdHex (.error reason) fault mutate after).2 := by
  have spec := synced.locked_spec groupIdHex reason fault mutate after unseen
  generalize reg.mutateLocked groupIdHex (.error reason) fault mutate after = result at spec ⊢
  cases spec with
  | refused error after synced same cause | skipped conv value after synced same stored skips =>
    exact ⟨synced, shelf_congr same⟩
  | sealed conv value after synced written stored persists =>
    refine ⟨synced, ?_⟩
    rw [shelf_written written, keeps]
    apply update_eq_self_iff.mpr
    rw [shelf, stored]
    rfl

theorem quiet_noteWedgeInbound (epoch : Option Nat) (now : Nat)
    (fault : Option ChatError) : Quiet reg (reg.noteWedgeInbound groupIdHex epoch now fault) :=
  quiet_mutateLocked synced groupIdHex _ fault (fun _ => rfl) fun _ _ => rfl

theorem quiet_noteWedgeProgress (now : Nat) (fault : Option ChatError) :
    Quiet reg (reg.noteWedgeProgress groupIdHex now fault) :=
  quiet_mutateLocked synced groupIdHex _ fault (fun _ => rfl) fun _ _ => rfl

end

theorem quiet_recordDelivery (groupIdHex messageId : String) (receivedAtMs : Nat)
    (fault : Option ChatError) :
    Quiet reg (reg.recordDelivery groupIdHex messageId receivedAtMs fault).2 :=
  quiet_mutateLocked synced groupIdHex _ fault (shelve_recordDelivery messageId receivedAtMs)
    fun _ _ => rfl

theorem quiet_rekey (groupIdHex : String) (env : DispatchEnv) (envelope : TransitEnvelope)
    (payload : WelcomePayload) (senderAgentHex : String) :
    Quiet reg (reg.mutateInPlace groupIdHex env.installFault
      (Conversation.resolveRekey env envelope payload senderAgentHex)).2 :=
  quiet_mutateLocked synced groupIdHex _ env.installFault
    (shelve_resolveRekey env envelope payload senderAgentHex) fun _ _ => rfl

theorem quiet_refreshHints (crypto : ChatCrypto) (senderHex : String) (payload : MessagePayload)
    (fault : Option ChatError) : Quiet reg (reg.refreshHints crypto senderHex payload fault) := by
  unfold Registry.refreshHints
  split <;> exact ⟨synced, rfl⟩

theorem quiet_enter {groupIdHex : String}
    (current : reg.onDisk groupIdHex = some conv) : Quiet reg (reg.enter groupIdHex conv) :=
  ⟨synced.filled current (Registry.cell_enter reg groupIdHex conv),
    shelf_congr (Registry.onDisk_of_filled (Registry.cell_enter reg groupIdHex conv))⟩

end

inductive RecordSpec (reg : Registry) (groupIdHex senderHex : String) (nonce : Nonce) :
    Except ChatError NonceCheckOutcome × Registry → Prop
  | failed (error : ChatError) (after : Registry) (quiet : Quiet reg after) :
      RecordSpec reg groupIdHex senderHex nonce (.error error, after)
  | replay (shelved : Shelved) (after : Registry) (quiet : Quiet reg after)
      (stored : shelf reg groupIdHex = some shelved) (seen : nonce ∈ shelved.window senderHex) :
      RecordSpec reg groupIdHex senderHex nonce (.ok .replay, after)
  | recorded (shelved : Shelved) (after : Registry) (synced : after.Synced)
      (stored : shelf reg groupIdHex = some shelved)
      (noted : shelf after =
        update (shelf reg) groupIdHex (some (shelved.note senderHex nonce))) :
      RecordSpec reg groupIdHex senderHex nonce (.ok .recorded, after)

theorem recordNonce_spec (synced : reg.Synced) (groupIdHex senderHex : String)
    (nonce : Nonce) (fault : Option ChatError) :
    RecordSpec reg groupIdHex senderHex nonce
      (reg.recordNonce groupIdHex senderHex nonce fault) := by
  have spec := synced.locked_spec groupIdHex
    (.invalid s!"record_nonce: no conversation for group_id {groupIdHex}") fault
    (recordNonceAction senderHex nonce) (fun reg _ => reg) fun _ _ => rfl
  unfold Registry.recordNonce
  generalize reg.mutateLocked groupIdHex _ fault _ _ = result at spec ⊢
  cases spec with
  | refused error after synced same cause => exact .failed error after ⟨synced, shelf_congr same⟩
  | skipped conv value after synced same stored skips =>
    rcases recordNonceAction_cases senderHex nonce conv with ⟨seen, replays⟩ | ⟨records, _⟩
    · cases skips.symm.trans replays
      exact .replay (shelve conv) after ⟨synced, shelf_congr same⟩ (by rw [shelf, stored]; rfl) seen
    · cases skips.symm.trans records
  | sealed conv value after synced written stored persists =>
    rcases recordNonceAction_cases senderHex nonce conv with ⟨_, replays⟩ | ⟨records, noted⟩
    · cases persists.symm.trans replays
    · cases persists.symm.trans records
      refine .recorded (shelve conv) after synced (by rw [shelf, stored]; rfl) ?_
      rw [shelf_written written, noted]

inductive AppendSpec (reg : Registry) (groupIdHex : String) (entry : HistoryEntry)
    (fault : Option ChatError) : Except ChatError Unit × Registry → Prop
  | refused (error : ChatError) (after : Registry) (quiet : Quiet reg after)
      (cause : fault ≠ none ∨ shelf reg groupIdHex = none) :
      AppendSpec reg groupIdHex entry fault (.error error, after)
  | appended (shelved : Shelved) (after : Registry) (synced : after.Synced)
      (stored : shelf reg groupIdHex = some shelved)
      (pushed : shelf after =
        update (shelf reg) groupIdHex (some (shelved.push entry))) :
      AppendSpec reg groupIdHex entry fault (.ok (), after)

theorem appendHistory_spec (synced : reg.Synced) (groupIdHex : String)
    (entry : HistoryEntry) (fault : Option ChatError) :
    AppendSpec reg groupIdHex entry fault (appendHistory reg groupIdHex entry fault) := by
  have spec := synced.locked_spec groupIdHex
    (.invalid s!"mutate_in_place: no conversation for group_id {groupIdHex}") fault
    (fun conv => (.persist (), conv.pushHistory entry)) Registry.refreshPubkeyCache
    fun _ _ => rfl
  unfold appendHistory Registry.mutateInPlace
  generalize reg.mutateLocked groupIdHex _ fault _ _ = result at spec ⊢
  cases spec with
  | refused error after synced same cause =>
    refine .refused error after ⟨synced, shelf_congr same⟩ ?_
    rcases cause with faulty | missing
    · exact .inl faulty
    · exact .inr (by rw [shelf, missing]; rfl)
  | skipped conv value after synced same stored skips => cases skips
  | sealed conv value after synced written stored persists =>
    refine .appended (shelve conv) after synced (by rw [shelf, stored]; rfl) ?_
    rw [shelf_written written, shelve_pushHistory]

end Fetchit.Chat.Redelivery
