import Mathlib.Data.List.Dedup
import Mathlib.Order.Lattice
import Fetchit.Chat.Interleaving

/-! Receiving the messages of a private group. A delivery is verified and opened on its own. It then
looks the conversation up, which reads the file without the lock of the registry if the cache has
no entry, and puts what it read into the cache later. It is applied under the lock: its nonce is
looked up in the window of its sender, and only a new one adds an entry to the history and a
counter to the ledger of that sender. -/
namespace Fetchit.Chat.GroupReceive
open Lib Lib.Run Lib.Outcome Proto.Identity Proto.Envelope

def missingCap : Nat := 128

inductive SeqObservation where
  | first
  | consecutive
  | gap (missing : List Nat)
  | filledHole
  | duplicate
  deriving DecidableEq

def evictOldest (missing : Map Nat Nat) : Map Nat Nat :=
  match missing.keys.min? with
  | some oldest => missing.erase oldest
  | none => missing

def newHoles (highWater seq : Nat) : List Nat :=
  let firstMissing := max (highWater + 1) (seq - missingCap)
  List.range' firstMissing (seq - firstMissing)

def record (state : SenderSeqState) (seq now : Nat) : SeqObservation × SenderSeqState :=
  if seq = 0 then (.duplicate, state)
  else if state.highWater = 0 then (.first, { state with highWater := seq })
  else if seq = state.highWater + 1 then (.consecutive, { state with highWater := seq })
  else if seq > state.highWater then
    let newly := newHoles state.highWater seq
    let missing := newly.foldl (fun missing hole => missing.insert hole now) state.missing
    (.gap newly, ⟨seq, evictOldest^[missing.keys.length - missingCap] missing⟩)
  else if (state.missing.lookup seq).isSome then
    (.filledHole, { state with missing := state.missing.erase seq })
  else (.duplicate, state)

def recordGroupSeq (conv : Conversation) (senderAgentIdHex : String) (seq now : Nat) :
    SeqObservation × Conversation :=
  let recorded := record ((conv.groupSeqWindows.lookup senderAgentIdHex).getD ⟨0, ∅⟩) seq now
  (recorded.1, { conv with
    groupSeqWindows := conv.groupSeqWindows.insert senderAgentIdHex recorded.2 })

/-- The frame inside an envelope: the nonce it implies, and what the daemon is asked to open. -/
structure EncryptedFrame where
  expectedOuterNonce : Except ChatError Bytes
  ciphertext : Bytes

structure GroupBody where
  senderName : Option String
  body : String
  seq : Option Nat
  deriving DecidableEq

/-- What a delivery meets outside: the sender's card once it was resolved, the daemon, and its
word on our membership. -/
structure Surroundings where
  card : Except ChatError (Option StoredContactCard)
  frame : Bytes → Except ChatError EncryptedFrame
  decrypt : EncryptedFrame → Except ChatError Bytes
  plaintext : Bytes → Except ChatError GroupBody
  dedupeHex : TransitEnvelope → String
  membership : Except ChatError Unit

structure Received where
  envelope : TransitEnvelope
  nonce : Nonce
  body : GroupBody
  messageId : String
  deriving DecidableEq

namespace Received

def sender (received : Received) : String := hexId received.envelope.senderAgentId

def entry (received : Received) : HistoryEntry where
  senderAgentIdHex := received.sender
  senderName := received.body.senderName
  body := received.body.body
  tsMs := received.envelope.timestampMs.toNat
  messageId := received.messageId
  attachment := none
  deliveredAtMs := none
  sendState := none
  stateChangedAtMs := 0

end Received

def verify (crypto : ChatCrypto) (around : Surroundings) (envelope : TransitEnvelope) :
    Except ChatError Received := do
  let label := ((hexId envelope.senderAgentId).take 8).toString
  let card ← okOr (← around.card) (.invalid s!"no card for envelope sender {label}")
  let encoded ← okOr card.agentPublicKeyB64 (.invalid s!"card for {label} has no ML-DSA pubkey")
  let agentPub ← okOr (Base64.decode encoded)
    (.invalid s!"card agent_public_key_b64: {crypto.base64Error encoded}")
  let canonical ← canonicalEnvelopeBytes crypto envelope
  (mlDsaVerify crypto.signing agentPub (agentSignInput (envelopeSignBytes canonical))
    envelope.senderSignature).mapError fun _ => .invalid "envelope signature verify failed"
  let nonce ← parseNonce envelope.nonce
  let frame ← around.frame envelope.ciphertext
  require ((← frame.expectedOuterNonce) == envelope.nonce)
    (.invalid "envelope nonce vs frame nonce mismatch")
  let body ← around.plaintext (← around.decrypt frame)
  .ok ⟨envelope, nonce, body, around.dedupeHex envelope⟩

structure GapReport where
  senderAgentIdHex : String
  missingSeqs : List Nat
  epoch : Nat
  deriving DecidableEq

inductive PrivateGroupReceive where
  | persisted (entry : HistoryEntry) (gap : Option GapReport)
  | replay
  deriving DecidableEq

structure Clock where
  wedge : Nat
  seq : Nat

def contribute (conv : Conversation) (message : Received × Clock) :
    Option SeqObservation × Conversation :=
  let received := message.1
  let conv := (conv.checkAndRecordNonce received.sender received.nonce).2
  let conv := (conv.pushHistory received.entry).wedgeProgress message.2.wedge
  match received.body.seq with
  | none => (none, conv)
  | some seq =>
    let recorded := recordGroupSeq conv received.sender seq message.2.seq
    (some recorded.1, recorded.2)

def gapReport (received : Received) : Option SeqObservation → Option GapReport
  | some (.gap missing) => some ⟨received.sender, missing, received.envelope.epoch⟩
  | _ => none

def receiveAction (message : Received × Clock) (conv : Conversation) :
    MutateAction PrivateGroupReceive × Conversation :=
  if (conv.checkAndRecordNonce message.1.sender message.1.nonce).1 then (.skip .replay, conv)
  else
    let contributed := contribute conv message
    (.persist (.persisted message.1.entry (gapReport message.1 contributed.1)), contributed.2)

/-- How far a verified receive has come with the conversation. -/
inductive Stage where
  | reading
  | inserting (conv : Conversation)
  | ready

structure Task where
  received : Received
  membership : Except ChatError Unit
  stage : Stage

/-- The receives on their way, and what the finished ones answered. -/
structure State where
  registry : Registry
  tasks : List Task
  answers : List ((Received × Clock) × Except ChatError PrivateGroupReceive)

/-- A delivery is verified and looks into the cache. One that found nothing there reads the file,
and enters what it read. One that is through takes the lock. -/
inductive Event where
  | check (around : Surroundings) (envelope : TransitEnvelope)
  | read (turn : Nat)
  | insert (turn : Nat)
  | apply (turn : Nat) (fault : Option ChatError) (clock : Clock)

section
variable (crypto : ChatCrypto) (groupIdHex : String) (shell : Conversation)

/-- A failed lookup ends the receive, as does one that finds no conversation when the daemon does
not know us as a member. -/
def lookUp (reg : Registry) (task : Task) : Option Task :=
  match reg.openConversation groupIdHex, task.membership with
  | .error _, _ => none
  | .ok none, .error _ => none
  | .ok none, .ok _ => some { task with stage := .ready }
  | .ok (some conv), _ => some { task with stage := .inserting conv }

def step (state : State) : Event → State
  | .check around envelope =>
    match verify crypto around envelope with
    | .error _ => state
    | .ok received =>
      let stage := if (state.registry.byGroupId.lookup groupIdHex).isSome then .ready else .reading
      { state with tasks := state.tasks ++ [⟨received, around.membership, stage⟩] }
  | .read turn =>
    match state.tasks[turn]? with
    | some ⟨received, membership, .reading⟩ =>
      match lookUp groupIdHex state.registry ⟨received, membership, .reading⟩ with
      | none => { state with tasks := state.tasks.eraseIdx turn }
      | some task => { state with tasks := state.tasks.set turn task }
    | _ => state
  | .insert turn =>
    match state.tasks[turn]? with
    | some ⟨received, membership, .inserting conv⟩ =>
      { state with
        registry := state.registry.enter groupIdHex conv
        tasks := state.tasks.set turn ⟨received, membership, .ready⟩ }
    | _ => state
  | .apply turn fault clock =>
    match state.tasks[turn]? with
    | some ⟨received, _, .ready⟩ =>
      let applied := state.registry.mutateInPlaceOrInit groupIdHex shell fault
        (receiveAction (received, clock))
      ⟨applied.2, state.tasks.eraseIdx turn, state.answers ++ [((received, clock), applied.1)]⟩
    | _ => state

def held (state : State) : Option Conversation :=
  (state.registry.cell groupIdHex).base (some shell)

end

def isPersisted : Except ChatError PrivateGroupReceive → Bool
  | .ok (.persisted _ _) => true
  | _ => false

def committed (state : State) : List (Received × Clock) :=
  (state.answers.filter fun answer => isPersisted answer.2).map (·.1)

def nonces (sender : String) (messages : List (Received × Clock)) : List Nonce :=
  messages.filterMap fun message =>
    if message.1.sender = sender then some message.1.nonce else none

def newest (seen : List Nonce) : List Nonce := seen.drop (seen.length - nonceWindowSize)

theorem pushNonce_newest (seen : List Nonce) (nonce : Nonce) :
    Conversation.pushNonce (newest seen) nonce = newest (seen ++ [nonce]) := by
  have positive : 0 < nonceWindowSize := by decide
  simp only [Conversation.pushNonce, newest, List.length_drop, List.length_append,
    List.length_singleton]
  rw [List.drop_append_of_le_length (by omega)]
  split
  · rw [List.drop_drop]
    congr 2
    omega
  · congr 2
    omega

theorem nodup_pushNonce {window : List Nonce} (distinct : window.Nodup) (fresh : nonce ∉ window) :
    (Conversation.pushNonce window nonce).Nodup := by
  unfold Conversation.pushNonce
  have kept : (if window.length ≥ nonceWindowSize then window.drop 1 else window) <:+ window := by
    split
    · exact List.drop_suffix 1 window
    · exact List.suffix_rfl
  apply List.Nodup.append (distinct.sublist kept.sublist) (List.nodup_singleton nonce)
  rw [List.disjoint_singleton]
  intro there
  exact fresh (kept.mem there)

theorem nonceWindow_checkAndRecordNonce (conv : Conversation) (sender : String) (nonce : Nonce) :
    (conv.checkAndRecordNonce sender nonce).2.nonceWindow =
      if nonce ∈ conv.nonceWindow sender then conv.nonceWindow
      else Function.update conv.nonceWindow sender
        (Conversation.pushNonce (conv.nonceWindow sender) nonce) := by
  unfold Conversation.checkAndRecordNonce
  simp only [List.contains_iff_mem]
  split
  · rfl
  · ext other : 1
    by_cases same : other = sender
    · subst same
      simp [Conversation.nonceWindow]
    · simp [Conversation.nonceWindow, same]

theorem nonceWindow_contribute
    (fresh : message.1.nonce ∉ conv.nonceWindow message.1.sender) (sender : String) :
    (contribute conv message).2.nonceWindow sender =
      if message.1.sender = sender then
        Conversation.pushNonce (conv.nonceWindow sender) message.1.nonce
      else conv.nonceWindow sender := by
  have kept : (contribute conv message).2.nonceWindow sender =
      (conv.checkAndRecordNonce message.1.sender message.1.nonce).2.nonceWindow sender := by
    unfold contribute
    dsimp only
    split <;> rfl
  rw [kept, nonceWindow_checkAndRecordNonce, if_neg fresh, Function.update_apply]
  simp only [eq_comm]
  split
  · rename_i same
    rw [same]
  · rfl

/-- A check of the sender's nonce, beside the nonces that were recorded so far. -/
def observe (sender : String) (log : Conversation × List Nonce) (nonce : Nonce) :
    Conversation × List Nonce :=
  let checked := log.1.checkAndRecordNonce sender nonce
  (checked.2, if checked.1 then log.2 else log.2 ++ [nonce])

theorem newest_of_le {seen : List Nonce} (few : seen.length ≤ nonceWindowSize) :
    newest seen = seen := by
  rw [newest, Nat.sub_eq_zero_of_le few, List.drop_zero]

theorem length_newest (seen : List Nonce) :
    (newest seen).length = min seen.length nonceWindowSize := by
  rw [newest, List.length_drop]
  omega

theorem newest_dedup {seen : List Nonce} (h : (newest seen).Nodup) :
    newest seen.dedup = newest seen := by
  by_cases few : seen.length ≤ nonceWindowSize
  · rw [newest_of_le few] at h
    rw [List.Nodup.dedup h]
  · have full : (newest seen).length = nonceWindowSize := by
      rw [length_newest]
      omega
    obtain ⟨earlier, parts⟩ : newest seen <:+ seen.dedup := by
      conv_rhs => rw [← List.take_append_drop (seen.length - nonceWindowSize) seen]
      rw [List.dedup_append]
      exact List.Nodup.dedup h ▸ List.suffix_union_right _ _
    rw [← parts, newest, List.length_append, full, Nat.add_sub_cancel, List.drop_left]

/-- The window holds the last nonces recorded, and no two of them are the same. -/
structure Recorded (conv : Conversation) (sender : String) (log : Conversation × List Nonce) :
    Prop where
  window : log.1.nonceWindow sender = newest log.2
  nodup : (newest log.2).Nodup
  others : ∀ other, other ≠ sender → log.1.nonceWindow other = conv.nonceWindow other

theorem Recorded.observe (held : Recorded conv sender log) (nonce : Nonce) :
    Recorded conv sender (observe sender log nonce) := by
  have windows := nonceWindow_checkAndRecordNonce log.1 sender nonce
  by_cases seen : nonce ∈ log.1.nonceWindow sender
  · have replay : (log.1.checkAndRecordNonce sender nonce).1 = true := by
      simp [Conversation.checkAndRecordNonce, seen]
    rw [if_pos seen] at windows
    unfold GroupReceive.observe
    constructor
    all_goals simp only [windows, replay, if_true]
    · exact held.window
    · exact held.nodup
    · exact held.others
  · have fresh : (log.1.checkAndRecordNonce sender nonce).1 = false := by
      simp [Conversation.checkAndRecordNonce, seen]
    rw [if_neg seen] at windows
    unfold GroupReceive.observe
    constructor
    all_goals simp only [windows, fresh]
    · rw [Function.update_self, held.window]
      exact pushNonce_newest log.2 nonce
    · rw [if_neg Bool.false_ne_true, ← pushNonce_newest]
      exact nodup_pushNonce held.nodup (held.window ▸ seen)
    · intro other apart
      rw [Function.update_of_ne apart]
      exact held.others other apart

/-- However often the sender's nonces are checked, a nonce is fresh exactly when it is none of the
last 64 distinct ones recorded; the window keeps its bound and its distinctness, and the windows of
other senders stay as they were. -/
theorem replay_window (conv : Conversation) (sender : String) (calls : List Nonce)
    (few : (conv.nonceWindow sender).length ≤ nonceWindowSize)
    (distinct : (conv.nonceWindow sender).Nodup) :
    let log := run (observe sender) (conv, conv.nonceWindow sender) calls
    (∀ nonce, (log.1.checkAndRecordNonce sender nonce).1 = false ↔
        nonce ∉ newest log.2.dedup) ∧
      (log.1.nonceWindow sender).length ≤ nonceWindowSize ∧ (log.1.nonceWindow sender).Nodup ∧
      ∀ other, other ≠ sender → log.1.nonceWindow other = conv.nonceWindow other := by
  intro log
  have start : newest (conv.nonceWindow sender) = conv.nonceWindow sender := newest_of_le few
  have held : Recorded conv sender log :=
    run_keeps (Recorded conv sender) (fun _ nonce held => held.observe nonce) calls
      ⟨start.symm, by rw [start]; exact distinct, fun _ _ => rfl⟩
  refine ⟨?_, ?_, held.window ▸ held.nodup, held.others⟩
  · intro nonce
    rw [newest_dedup held.nodup, ← held.window]
    simp [Conversation.checkAndRecordNonce, apply_ite Prod.fst]
  · rw [held.window, length_newest]
    exact Nat.min_le_right _ _

section
variable {crypto : ChatCrypto} {groupIdHex : String} {shell : Conversation}

/-- To enter what the file still holds changes nothing that the registry would find. -/
theorem cell_enter_of_slot {reg : Registry} (coherent : (reg.cell groupIdHex).Coherent)
    (current : reg.slot groupIdHex = .holds conv) (missing : Option Conversation) :
    ((reg.enter groupIdHex conv).cell groupIdHex).Coherent ∧
      ((reg.enter groupIdHex conv).cell groupIdHex).base missing =
        (reg.cell groupIdHex).base missing := by
  rw [Registry.cell_enter, Function.update_self]
  refine ⟨Cell.coherent_fill (.inr current), ?_⟩
  rw [← Cell.base_view, coherent.view_fill current, Cell.base_view]

theorem coherent_apply {reg after : Registry} (coherent : (reg.cell groupIdHex).Coherent)
    (applied : reg.mutateInPlaceOrInit groupIdHex shell fault (receiveAction message) =
      (answer, after)) : (after.cell groupIdHex).Coherent := by
  have moved : (reg.mutateInPlaceOrInit groupIdHex shell fault (receiveAction message)).2.cell =
      Function.update reg.cell groupIdHex ((reg.cell groupIdHex).mutate (some shell)
        (Registry.sealed fault (receiveAction message))) :=
    Registry.cell_mutateLocked reg groupIdHex (.ok shell) fault _ fun _ _ => rfl
  rw [applied] at moved
  rw [moved, Function.update_self]
  exact coherent.mutate _ _

theorem receiveAction_cases (message : Received × Clock) (conv : Conversation) :
    (message.1.nonce ∈ conv.nonceWindow message.1.sender ∧
      receiveAction message conv = (.skip .replay, conv)) ∨
    (message.1.nonce ∉ conv.nonceWindow message.1.sender ∧ ∃ gap, receiveAction message conv =
      (.persist (.persisted message.1.entry gap), (contribute conv message).2)) := by
  unfold receiveAction Conversation.checkAndRecordNonce
  by_cases seen : message.1.nonce ∈ conv.nonceWindow message.1.sender <;> simp [seen]

theorem apply_cases {reg after : Registry}
    (applied : reg.mutateInPlaceOrInit groupIdHex shell fault (receiveAction message) =
      (answer, after)) :
    (isPersisted answer = true ∧ ∃ conv, (reg.cell groupIdHex).base (some shell) = some conv ∧
      message.1.nonce ∉ conv.nonceWindow message.1.sender ∧
      (after.cell groupIdHex).base (some shell) = some (contribute conv message).2) ∨
    (isPersisted answer = false ∧
      (after.cell groupIdHex).base (some shell) = (reg.cell groupIdHex).base (some shell) ∧
      ((fault = none ∧ (reg.cell groupIdHex).base (some shell) ≠ none) ∨
          (∃ outcome, answer = .ok outcome) →
        ∃ conv, (reg.cell groupIdHex).base (some shell) = some conv ∧
          message.1.nonce ∈ conv.nonceWindow message.1.sender)) := by
  have spec : Registry.MutateSpec reg groupIdHex (some shell) fault (receiveAction message)
      (answer, after) :=
    applied ▸ Registry.mutateLocked_spec reg groupIdHex (.ok shell) fault _ fun _ _ => rfl
  cases spec with
  | failed error nothing => exact .inr ⟨rfl, rfl, by simp [nothing]⟩
  | skipped conv conv' value _ started skips filled =>
    obtain ⟨seen, acts⟩ | ⟨_, gap, acts⟩ := receiveAction_cases message conv
    · cases acts.symm.trans skips
      refine .inr ⟨rfl, ?_, fun _ => ⟨conv, started, seen⟩⟩
      rw [filled, Function.update_self, started]
      rfl
    · cases acts.symm.trans skips
  | unsealed conv conv' value error _ started persists refused filled =>
    refine .inr ⟨rfl, ?_, by simp [refused]⟩
    rw [filled, Function.update_self, started]
    rfl
  | committed conv conv' value _ started persists ok written =>
    obtain ⟨_, acts⟩ | ⟨fresh, gap, acts⟩ := receiveAction_cases message conv
    · cases acts.symm.trans persists
    · cases acts.symm.trans persists
      refine .inl ⟨rfl, conv, started, fresh, ?_⟩
      simp [written, Cell.base]

def key (received : Received) : String × Nonce := (received.sender, received.nonce)

theorem mem_nonces {sender : String} {nonce : Nonce} :
    nonce ∈ nonces sender messages ↔ ∃ message ∈ messages, key message.1 = (sender, nonce) := by
  simp [nonces, key]

variable (groupIdHex) in
/-- What a receive enters into the cache is still in the file. A message that is applied shares its
nonce with no other message of its sender, and if it was written before, fewer than 64 messages of
its sender were written since. -/
def Timely (state : State) : Event → Prop
  | .check _ _ => True
  | .read _ => True
  | .insert turn => ∀ received membership conv,
      state.tasks[turn]? = some ⟨received, membership, .inserting conv⟩ →
        state.registry.slot groupIdHex = .holds conv
  | .apply turn _ _ => ∀ received membership,
      state.tasks[turn]? = some ⟨received, membership, .ready⟩ →
        (∀ message ∈ committed state, key message.1 = key received → message.1 = received) ∧
        (received.nonce ∈ nonces received.sender (committed state) →
          received.nonce ∈ newest (nonces received.sender (committed state)))

def contributed (conv : Conversation) (messages : List (Received × Clock)) : Conversation :=
  messages.foldl (fun conv message => (contribute conv message).2) conv

variable (groupIdHex shell) in
structure Exact (base : Option Conversation) (state : State) : Prop where
  held : held groupIdHex shell state = base.map (contributed · (committed state))
  windows : ∀ conv, GroupReceive.held groupIdHex shell state = some conv → ∀ sender,
    conv.nonceWindow sender = newest (nonces sender (committed state))
  answered : ∀ message outcome, (message, .ok outcome) ∈ state.answers →
    message.1 ∈ (committed state).map (·.1)
  distinct : ((committed state).map (·.1)).Nodup
  coherent : (state.registry.cell groupIdHex).Coherent

theorem Exact.tasks (h : Exact groupIdHex shell base state) (tasks : List Task) :
    Exact groupIdHex shell base { state with tasks } :=
  ⟨h.held, h.windows, h.answered, h.distinct, h.coherent⟩

theorem exact_insert (h : Exact groupIdHex shell base state) (tasks : List Task)
    (current : state.registry.slot groupIdHex = .holds conv) :
    Exact groupIdHex shell base
      { state with registry := state.registry.enter groupIdHex conv, tasks } := by
  obtain ⟨kept, windows, answered, distinct, coherent⟩ := h
  obtain ⟨coherent', same⟩ := cell_enter_of_slot coherent current (some shell)
  unfold GroupReceive.held at kept windows
  rw [← same] at kept windows
  exact ⟨kept, windows, answered, distinct, coherent'⟩

theorem exact_apply (h : Exact groupIdHex shell base state)
    (timely : Timely groupIdHex state (.apply turn fault clock)) :
    Exact groupIdHex shell base
      (step crypto groupIdHex shell state (.apply turn fault clock)) := by
  unfold step
  dsimp only
  split
  · rename_i received membership waits
    obtain ⟨alone, recent⟩ := timely received membership waits
    generalize applied : state.registry.mutateInPlaceOrInit groupIdHex shell fault
      (receiveAction (received, clock)) = result
    obtain ⟨answer, after⟩ := result
    obtain ⟨kept, windows, answered, distinct, coherent⟩ := h
    have coherent' := coherent_apply coherent applied
    obtain ⟨written, conv, started, fresh, added⟩ | ⟨unwritten, same, seen⟩ := apply_cases applied
    · have more : ∀ registry tasks, committed ⟨registry, tasks,
          state.answers ++ [((received, clock), answer)]⟩ =
            committed state ++ [(received, clock)] := by
        simp [committed, written]
      have unseen : received ∉ (committed state).map (·.1) := by
        intro mem
        obtain ⟨message, listed, rfl⟩ := List.mem_map.mp mem
        have again := recent (mem_nonces.mpr ⟨message, listed, rfl⟩)
        rw [← windows conv started] at again
        exact fresh again
      constructor
      · rw [more]
        refine added.trans ?_
        obtain ⟨origin, found, rfl⟩ := Option.map_eq_some_iff.mp (kept.symm.trans started)
        simp [found, contributed]
      · intro conv' started' sender
        cases added.symm.trans started'
        rw [nonceWindow_contribute fresh, more, windows conv started, pushNonce_newest]
        simp only [nonces, List.filterMap_append, List.filterMap_cons]
        split <;> simp
      · intro message outcome mem
        rw [more, List.map_append, List.mem_append]
        obtain mem | last := List.mem_append.mp mem
        · exact .inl (answered message outcome mem)
        · cases List.mem_singleton.mp last
          exact .inr (List.mem_singleton_self _)
      · rw [more, List.map_append]
        refine List.nodup_append.mpr ⟨distinct, List.nodup_singleton _, ?_⟩
        intro first mem second last same
        cases List.mem_singleton.mp last
        subst same
        exact unseen mem
      · exact coherent'
    · have more : ∀ registry tasks, committed ⟨registry, tasks,
          state.answers ++ [((received, clock), answer)]⟩ = committed state := by
        simp [committed, unwritten]
      constructor
      · rw [more, ← kept]
        exact same
      · intro conv started
        rw [more]
        exact windows conv (same.symm.trans started)
      · intro message outcome mem
        rw [more]
        obtain mem | last := List.mem_append.mp mem
        · exact answered message outcome mem
        · cases List.mem_singleton.mp last
          obtain ⟨conv, started, again⟩ := seen (.inr ⟨outcome, rfl⟩)
          rw [windows conv started] at again
          obtain ⟨message, mem, shared⟩ := mem_nonces.mp (List.mem_of_mem_drop again)
          exact List.mem_map.mpr ⟨message, mem, alone message mem shared⟩
      · rw [more]
        exact distinct
      · exact coherent'
  · exact h

theorem exact_step (h : Exact groupIdHex shell base state)
    (timely : Timely groupIdHex state event) :
    Exact groupIdHex shell base (step crypto groupIdHex shell state event) := by
  cases event with
  | check around envelope =>
    unfold step
    dsimp only
    split
    · exact h
    · exact h.tasks _
  | read turn =>
    unfold step
    dsimp only
    split
    · split
      · exact h.tasks _
      · exact h.tasks _
    · exact h
  | insert turn =>
    unfold step
    dsimp only
    split
    · rename_i received membership conv waits
      exact exact_insert h _ (timely received membership conv waits)
    · exact h
  | apply turn fault clock => exact exact_apply h timely

variable (crypto) in
def Event.verifies : Event → Bool
  | .check around envelope => (verify crypto around envelope).isOk
  | _ => true

/-- The deliveries that fail verification can be left out of a run. -/
theorem run_verified (events : List Event) : ∀ state,
    run (step crypto groupIdHex shell) state events =
      run (step crypto groupIdHex shell) state (events.filter (·.verifies crypto)) := by
  induction events with
  | nil => exact fun _ => rfl
  | cons event events ih =>
    intro state
    rw [List.filter_cons]
    split
    · exact ih _
    · rename_i fails
      have same : step crypto groupIdHex shell state event = state := by
        cases event with
        | check around envelope =>
          cases verified : verify crypto around envelope with
          | error error => simp [step, verified]
          | ok received => simp [Event.verifies, verified, Except.isOk, Except.toBool] at fails
        | _ => exact absurd rfl fails
      rw [run_cons, same]
      exact ih state

end

def openCrypto : ChatCrypto :=
  { idealChat [] (idealPayload "" 0 [] []) emptyMessage emptyReceipt with
    signing := { idealCrypto [] with verify := fun _ _ _ => .ok true } }

def openSurroundings : Surroundings where
  card := .ok (some ⟨hexId bobId, "", "", some "", none, none, none⟩)
  frame bytes := .ok ⟨.ok bytes, bytes⟩
  decrypt frame := .ok frame.ciphertext
  plaintext _ := .ok ⟨none, "", none⟩
  dedupeHex _ := ""
  membership := .ok ()

def bobNonce (n : Nat) : Nonce := Vector.ofFn fun i => if i = 0 then UInt8.ofNat n else 0

def bobMessage (n : Nat) : Received where
  envelope := ⟨1, .privateGroupChat, some bobGroup, none, bobId, [], 0, 0, (bobNonce n).toList,
    (bobNonce n).toList, [], []⟩
  nonce := bobNonce n
  body := ⟨none, "", none⟩
  messageId := ""

theorem verify_bobMessage (n : Nat) :
    verify openCrypto openSurroundings (bobMessage n).envelope = .ok (bobMessage n) := by
  have decoded : Base64.decode "" = some [] := rfl
  have parsed : parseNonce (bobNonce n).toList = .ok (bobNonce n) := by
    simp [parseNonce, Vector.toList]
  simp only [verify, bind_eq_ok, okOr_eq_ok, require_eq_ok, beq_iff_eq]
  exact ⟨_, rfl, _, rfl, _, rfl, _, decoded, _, rfl, (), rfl, _, parsed, _, rfl, _, rfl, (), rfl,
    _, rfl, _, rfl, rfl⟩

def bobChecks (ns : List Nat) : List Event :=
  ns.map fun n => .check openSurroundings (bobMessage n).envelope

abbrev bobStep : State → Event → State := step openCrypto (hexId bobGroup) bobConversation

/-- The conversation is on disk, and not yet in the cache. -/
def coldRegistry : Registry := { Registry.ofConversation bobConversation with byGroupId := ∅ }

def coldState (stage : Stage) (reg : Registry) : State :=
  ⟨reg, [⟨bobMessage 1, .ok (), stage⟩, ⟨bobMessage 1, .ok (), stage⟩], []⟩

theorem bobNonce_inj (small : m < 256) (small' : n < 256)
    (same : bobNonce m = bobNonce n) : m = n := by
  have first := congrArg (·[0]) same
  simp only [bobNonce] at first
  have := congrArg UInt8.toNat first
  simp at this
  omega

theorem nodup_bobNonces : ((List.range 65).map bobNonce).Nodup := by
  refine List.nodup_range.map_on ?_
  intro m mem n mem' same
  rw [List.mem_range] at mem mem'
  exact bobNonce_inj (by omega) (by omega) same

theorem bobNonce_gone : bobNonce 0 ∉ newest ((List.range 65).map bobNonce) := by
  rw [newest, ← List.map_drop]
  intro mem
  obtain ⟨n, later, same⟩ := List.mem_map.mp mem
  have range : ∀ n ∈ (List.range 65).drop 1, 0 < n ∧ n < 256 := by decide
  obtain ⟨positive, small⟩ := range n (by simpa [nonceWindowSize] using later)
  exact absurd (bobNonce_inj small (by decide) same) positive.ne'

/-- The window is full, and its oldest nonce gives way. -/
theorem bob_nonce_recorded :
    let full := { bobConversation with
      seenNonces := bobConversation.seenNonces.insert "bob" ((List.range 64).map bobNonce) }
    let log := run (observe "bob") (full, full.nonceWindow "bob") [bobNonce 64]
    (log.1.checkAndRecordNonce "bob" (bobNonce 0)).1 = false := by
  intro full
  have window : full.nonceWindow "bob" = (List.range 64).map bobNonce := by
    simp [Conversation.nonceWindow, full]
  have split : (List.range 65).map bobNonce = full.nonceWindow "bob" ++ [bobNonce 64] := by
    rw [window, List.range_succ, List.map_append]
    rfl
  have distinct := nodup_bobNonces
  rw [split, List.nodup_append] at distinct
  have fresh : bobNonce 64 ∉ full.nonceWindow "bob" :=
    fun mem => distinct.2.2 _ mem _ (List.mem_singleton_self _) rfl
  have logged : (run (observe "bob") (full, full.nonceWindow "bob") [bobNonce 64]).2 =
      (List.range 65).map bobNonce := by
    simp [observe, Conversation.checkAndRecordNonce, fresh, split]
  have recorded := replay_window full "bob" [bobNonce 64] (by simp [window, nonceWindowSize])
    distinct.1
  refine (recorded.1 (bobNonce 0)).mpr ?_
  rw [logged, nodup_bobNonces.dedup]
  exact bobNonce_gone

end Fetchit.Chat.GroupReceive
