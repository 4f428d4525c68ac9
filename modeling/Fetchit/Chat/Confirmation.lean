import Fetchit.Chat.Redelivery

/-! Confirmed messages and the history. Deliveries interleave with each other and with the
process stopping, which keeps the files and nothing else. Beside the registry a run records
which frames had their nonce sealed, what has been sealed into each history, and how every
delivery was answered. -/
namespace Fetchit.Chat.Redelivery
open Lib Lib.Run Proto.Identity Proto.Envelope Function

structure Delivery where
  frame : Frame
  stage : Stage

/-- A nonce that was sealed, and the message the frame opened to. -/
structure Recording where
  frame : Frame
  entry : Option HistoryEntry
  deriving DecidableEq

/-- How a delivery was answered, and the recordings of its frame that went before. -/
structure Answer where
  frame : Frame
  verdict : InboundDispatch
  earlier : List Recording
  deriving DecidableEq

structure System where
  registry : Registry
  deliveries : List Delivery
  recorded : List Recording
  log : String → List HistoryEntry
  answers : List Answer

inductive Event where
  | deliver (frame : Frame)
  | advance (delivery : Nat) (env : DispatchEnv)
  | send (groupIdHex : String) (entry : HistoryEntry) (fault : Option ChatError)
  | rekey (groupIdHex : String) (env : DispatchEnv) (envelope : TransitEnvelope)
      (payload : WelcomePayload) (senderAgentHex : String)
  | restart

def recording (crypto : ChatCrypto) (frame : Frame) : Stage → Stage → Option Recording
  | .found _, .opened plaintext => some ⟨frame, frame.message crypto plaintext⟩
  | .found _, .unopened => some ⟨frame, none⟩
  | _, _ => none

def logged (log : String → List HistoryEntry) (groupIdHex : String) (entry : HistoryEntry) :
    Except ChatError Unit → String → List HistoryEntry
  | .ok _ => update log groupIdHex (log groupIdHex ++ [content entry])
  | .error _ => log

def logAfter (env : DispatchEnv) (frame : Frame) (reg : Registry)
    (log : String → List HistoryEntry) : Stage → String → List HistoryEntry
  | .hinted payload => logged log frame.groupIdHex (payload.entry frame.senderHex)
      (appendHistory reg frame.groupIdHex (payload.entry frame.senderHex) env.historyFault).1
  | _ => log

def Stage.verdict : Stage → Option InboundDispatch
  | .done (.ok verdict) => some verdict
  | _ => none

namespace System

def start (reg : Registry) : System where
  registry := reg
  deliveries := []
  recorded := []
  log groupIdHex := ((reg.onDisk groupIdHex).map messages).getD []
  answers := []

def turn (crypto : ChatCrypto) (system : System) (delivery : Nat) (env : DispatchEnv)
    (frame : Frame) (stage : Stage) : System :=
  let next := stage.step crypto env frame system.registry
  { registry := next.2
    deliveries := system.deliveries.set delivery ⟨frame, next.1⟩
    recorded := system.recorded ++ (recording crypto frame stage next.1).toList
    log := logAfter env frame system.registry system.log stage
    answers := system.answers ++ next.1.verdict.toList.map fun verdict =>
      ⟨frame, verdict, system.recorded.filter (·.frame = frame)⟩ }

def advance (crypto : ChatCrypto) (system : System) (delivery : Nat) (env : DispatchEnv) : System :=
  match system.deliveries[delivery]? with
  | none => system
  | some ⟨_, .done _⟩ => system
  | some ⟨frame, stage⟩ => system.turn crypto delivery env frame stage

def step (crypto : ChatCrypto) (system : System) : Event → System
  | .deliver frame => { system with deliveries := system.deliveries ++ [⟨frame, .looking⟩] }
  | .advance delivery env => system.advance crypto delivery env
  | .send groupIdHex entry fault =>
    let sent := appendHistory system.registry groupIdHex entry fault
    { system with
      registry := sent.2
      log := logged system.log groupIdHex entry sent.1 }
  | .rekey groupIdHex env envelope payload senderAgentHex =>
    { system with registry := (system.registry.mutateInPlace groupIdHex env.installFault
        (Conversation.resolveRekey env envelope payload senderAgentHex)).2 }
  | .restart =>
    { system with
      registry := .new system.registry.conversations system.registry.contacts
        system.registry.contactsDir
      deliveries := [] }

/-- The history on disk holds the message, or has pushed it out by its bound. -/
def Keeps (system : System) (groupIdHex : String) (entry : HistoryEntry) : Prop :=
  ∃ conv older, system.registry.onDisk groupIdHex = some conv ∧
    system.log groupIdHex = older ++ messages conv ∧
    (entry ∈ messages conv ∨ entry ∈ older ∧ historyCap ≤ conv.history.length)

end System

/-- What an answer stands for: an accepted message is there, and so is every message that the
nonce of a repeated frame was sealed for. -/
def Answer.Vouches (keeps : String → HistoryEntry → Prop) (answer : Answer) : Prop :=
  match answer.verdict with
  | .message groupIdHex senderHex payload => keeps groupIdHex (payload.entry senderHex)
  | .replayDetected groupIdHex _ =>
    answer.earlier ≠ [] ∧ ∀ recording ∈ answer.earlier, ∀ entry ∈ recording.entry,
      keeps groupIdHex entry
  | _ => True

theorem Answer.Vouches.mono {answer : Answer} (vouches : answer.Vouches keeps)
    (more : ∀ groupIdHex entry, keeps groupIdHex entry → keeps' groupIdHex entry) :
    answer.Vouches keeps' := by
  unfold Vouches at vouches ⊢
  split at vouches
  · exact more _ _ vouches
  · exact ⟨vouches.1, fun recording mem entry carried =>
      more _ _ (vouches.2 recording mem entry carried)⟩
  · trivial

namespace System

def Confirmed (system : System) : Prop :=
  ∀ answer ∈ system.answers, answer.Vouches system.Keeps

/-- What a turn has to meet: the file of a cold lookup is still as it was read, the nonce of the
frame was used by no other frame and no copy of the frame is between its two seals, and the
history can be written. -/
def Clear (system : System) (env : DispatchEnv) : Option Delivery → Prop
  | some ⟨frame, .inserting conv⟩ => system.registry.onDisk frame.groupIdHex = some conv
  | some ⟨frame, .found _⟩ =>
    (∀ recording ∈ system.recorded, recording.frame.SharesNonce frame →
      recording.frame = frame) ∧
    ∀ delivery ∈ system.deliveries, delivery.frame = frame → delivery.stage.midway = false
  | some ⟨_, .hinted _⟩ => env.historyFault = none
  | _ => True

instance (system : System) (env : DispatchEnv) (delivery : Option Delivery) :
    Decidable (system.Clear env delivery) := by
  unfold Clear
  split <;> infer_instance

/-- The turns are clear, and the process stops only where no message is between its two seals. -/
def Orderly (system : System) : Event → Prop
  | .advance delivery env => system.Clear env system.deliveries[delivery]?
  | .restart => ∀ delivery ∈ system.deliveries, delivery.stage.midway = false
  | _ => True

instance (system : System) (event : Event) : Decidable (system.Orderly event) := by
  cases event <;> unfold Orderly <;> infer_instance

end System

/-- The effects of a turn on the files, the log and the delivery. -/
inductive TurnSpec (crypto : ChatCrypto) (env : DispatchEnv) (frame : Frame) (reg : Registry) :
    Stage → Stage × Registry → Prop
  | idle {stage : Stage} (next : Stage) (after : Registry) (quiet : Quiet reg after)
      (carries : next.carries crypto frame = stage.carries crypto frame)
      (unrecorded : recording crypto frame stage next = none)
      (unlogged : ∀ log, logAfter env frame reg log stage = log)
      (plain : ∀ verdict ∈ next.verdict, ∀ keeps earlier,
        Answer.Vouches keeps ⟨frame, verdict, earlier⟩) :
      TurnSpec crypto env frame reg stage (next, after)
  | recorded {conv : Conversation} (next : Stage) (after : Registry) (nonce : Nonce)
      (shelved : Shelved) (parses : parseNonce frame.envelope.nonce = .ok nonce)
      (synced : after.Synced) (stored : shelf reg frame.groupIdHex = some shelved)
      (noted : shelf after = update (shelf reg) frame.groupIdHex
        (some (shelved.note frame.senderHex nonce)))
      (records : recording crypto frame (.found conv) next =
        some ⟨frame, next.carries crypto frame⟩)
      (unanswered : next.verdict = none) :
      TurnSpec crypto env frame reg (.found conv) (next, after)
  | replayed {conv : Conversation} (after : Registry) (nonce : Nonce) (shelved : Shelved)
      (parses : parseNonce frame.envelope.nonce = .ok nonce) (quiet : Quiet reg after)
      (stored : shelf reg frame.groupIdHex = some shelved)
      (seen : nonce ∈ shelved.window frame.senderHex) :
      TurnSpec crypto env frame reg (.found conv)
        (.done (.ok (.replayDetected frame.groupIdHex frame.senderHex)), after)
  | appended {payload : MessagePayload} (after : Registry) (shelved : Shelved)
      (synced : after.Synced) (stored : shelf reg frame.groupIdHex = some shelved)
      (pushed : shelf after = update (shelf reg) frame.groupIdHex
        (some (shelved.push (payload.entry frame.senderHex))))
      (grown : ∀ log, logAfter env frame reg log (.hinted payload) =
        update log frame.groupIdHex
          (log frame.groupIdHex ++ [payload.entry frame.senderHex])) :
      TurnSpec crypto env frame reg (.hinted payload)
        (.done (.ok (.message frame.groupIdHex frame.senderHex payload)), after)
  | unsaved {payload : MessagePayload} (after : Registry)
      (cause : env.historyFault ≠ none ∨ shelf reg frame.groupIdHex = none) :
      TurnSpec crypto env frame reg (.hinted payload)
        (.done (.ok (.message frame.groupIdHex frame.senderHex payload)), after)

section
variable {crypto : ChatCrypto} {env : DispatchEnv} {frame : Frame} {reg : Registry}
  (synced : reg.Synced)
include synced

theorem record_spec (conv : Conversation) :
    TurnSpec crypto env frame reg (.found conv) (record crypto env frame reg conv) := by
  have quiet : Quiet reg reg := ⟨synced, rfl⟩
  unfold record
  split
  · exact .idle _ _ quiet rfl rfl (fun _ => rfl) (by simp [Stage.verdict])
  · exact .idle _ _ quiet rfl rfl (fun _ => rfl) (by simp [Stage.verdict])
  · rename_i key _
    split
    · exact .idle _ _ quiet rfl rfl (fun _ => rfl) (by simp [Stage.verdict])
    · rename_i nonce parses
      have spec := recordNonce_spec synced frame.groupIdHex frame.senderHex nonce env.nonceFault
      generalize reg.recordNonce frame.groupIdHex frame.senderHex nonce env.nonceFault = result
        at spec ⊢
      cases spec with
      | failed error after quiet =>
        exact .idle _ _ quiet rfl rfl (fun _ => rfl) (by simp [Stage.verdict])
      | replay shelved after quiet stored seen =>
        exact .replayed after nonce shelved parses quiet stored seen
      | recorded shelved after synced stored noted =>
        cases crypto.aeadOpen key nonce frame.envelope.ciphertext
            (messageAad frame.groupId frame.envelope.epoch) with
        | none => exact .recorded _ after nonce shelved parses synced stored noted rfl rfl
        | some plaintext => exact .recorded _ after nonce shelved parses synced stored noted rfl rfl

theorem opened_spec (plaintext : Bytes) :
    TurnSpec crypto env frame reg (.opened plaintext)
      ((Stage.opened plaintext).step crypto env frame reg) := by
  have quiet := quiet_noteWedgeProgress synced frame.groupIdHex env.wedgeClock env.wedgeFault
  simp only [Stage.step]
  split
  · rename_i receipt
    have nothing : frame.message crypto plaintext = none := by simp [Frame.message, receipt]
    split <;>
      exact .idle _ _ quiet nothing.symm rfl (fun _ => rfl) (by simp [Stage.verdict])
  · rename_i receipt
    split
    · rename_i failed
      have nothing : frame.message crypto plaintext = none := by
        simp [Frame.message, failed, Except.toOption]
      exact .idle _ _ quiet nothing.symm rfl (fun _ => rfl) (by simp [Stage.verdict])
    · rename_i payload parses
      have entry : frame.message crypto plaintext =
          some (payload.stripInvalid.entry frame.senderHex) := by
        simp [Frame.message, receipt, parses, Except.toOption]
      exact .idle _ _ quiet entry.symm rfl (fun _ => rfl) (by simp [Stage.verdict])

theorem hinted_spec (payload : MessagePayload) :
    TurnSpec crypto env frame reg (.hinted payload)
      ((Stage.hinted payload).step crypto env frame reg) := by
  have spec := appendHistory_spec synced frame.groupIdHex (payload.entry frame.senderHex)
    env.historyFault
  have logs : ∀ log, logAfter env frame reg log (.hinted payload) = logged log frame.groupIdHex
      (payload.entry frame.senderHex) (appendHistory reg frame.groupIdHex
        (payload.entry frame.senderHex) env.historyFault).1 := fun _ => rfl
  simp only [Stage.step]
  generalize appendHistory reg frame.groupIdHex (payload.entry frame.senderHex) env.historyFault
    = result at spec logs ⊢
  cases spec with
  | refused error after quiet cause => exact .unsaved after cause
  | appended shelved after synced stored pushed =>
    exact .appended after shelved synced stored pushed logs

theorem turn_spec (stage : Stage) (unfinished : ∀ result, stage ≠ .done result)
    (current : ∀ conv, stage = .inserting conv → reg.onDisk frame.groupIdHex = some conv) :
    TurnSpec crypto env frame reg stage (stage.step crypto env frame reg) := by
  have quiet : Quiet reg reg := ⟨synced, rfl⟩
  cases stage with
  | looking =>
    simp only [Stage.step]
    split <;> exact .idle _ _ quiet rfl rfl (fun _ => rfl) (by simp [Stage.verdict])
  | reading =>
    simp only [Stage.step]
    split
    · exact .idle _ _ quiet rfl rfl (fun _ => rfl) (by simp [Stage.verdict])
    · exact .idle _ _ quiet rfl rfl (fun _ => rfl) (by simp [Stage.verdict, Answer.Vouches])
    · exact .idle _ _ quiet rfl rfl (fun _ => rfl) (by simp [Stage.verdict])
  | inserting conv =>
    exact .idle _ _ (quiet_enter synced (current conv rfl)) rfl rfl (fun _ => rfl)
      (by simp [Stage.verdict])
  | found conv => exact record_spec synced conv
  | stale | unopened =>
    exact .idle _ _ (quiet_noteWedgeInbound synced _ _ _ _) rfl rfl (fun _ => rfl)
      (by simp [Stage.verdict, Answer.Vouches])
  | opened plaintext => exact opened_spec synced plaintext
  | parsed payload =>
    exact .idle _ _ (quiet_refreshHints synced _ _ _ _) rfl rfl (fun _ => rfl)
      (by simp [Stage.verdict])
  | hinted payload => exact hinted_spec synced payload
  | received payload =>
    exact .idle _ _ (quiet_recordDelivery synced _ _ _ _) rfl rfl (fun _ => rfl)
      (by simp [Stage.verdict, Answer.Vouches])
  | done result => exact absurd rfl (unfinished result)

end

theorem parseNonce_injective
    (parses : parseNonce first = .ok nonce) (parses' : parseNonce second = .ok nonce) :
    first = second := by
  unfold parseNonce at parses parses'
  split at parses
  · split at parses'
    · cases parses
      simpa using (Except.ok.inj parses').symm
    · cases parses'
  · cases parses

theorem mem_set_or_eq {α : Type} {items : List α} {old item : α}
    (slot : items[i]? = some old) (mem : item ∈ items) (new : α) :
    item ∈ items.set i new ∨ item = old := by
  obtain ⟨j, found⟩ := List.mem_iff_getElem?.mp mem
  by_cases same : i = j
  · subst same
    exact .inr (Option.some.inj (found.symm.trans slot))
  · refine .inl (List.mem_iff_getElem?.mpr ⟨j, ?_⟩)
    rw [List.getElem?_set_ne same, found]

def Delivery.carries (crypto : ChatCrypto) (delivery : Delivery) : Option HistoryEntry :=
  delivery.stage.carries crypto delivery.frame

def Logged (shelves : String → Option Shelved) (log : String → List HistoryEntry)
    (groupIdHex : String) (entry : HistoryEntry) : Prop :=
  (shelves groupIdHex).isSome ∧ entry ∈ log groupIdHex

theorem isSome_update (there : (shelves groupIdHex).isSome) (written : String) (shelved : Shelved) :
    (update shelves written (some shelved) groupIdHex).isSome := by
  rw [update_apply]
  split
  · rfl
  · exact there

theorem forall_update {property : String → Shelved → Prop} (here : property written new)
    (others : ∀ groupIdHex shelved, groupIdHex ≠ written → shelves groupIdHex = some shelved →
      property groupIdHex shelved) :
    ∀ groupIdHex shelved, update shelves written (some new) groupIdHex = some shelved →
      property groupIdHex shelved := by
  intro groupIdHex shelved found
  by_cases same : groupIdHex = written
  · subst same
    rw [update_self] at found
    cases found
    exact here
  · rw [update_of_ne same] at found
    exact others groupIdHex shelved same found

theorem mem_update_append {log : String → List HistoryEntry} (mem : entry ∈ log groupIdHex)
    (written : String) (added : HistoryEntry) :
    entry ∈ update log written (log written ++ [added]) groupIdHex := by
  rw [update_apply]
  split
  · rename_i same
    subst same
    exact List.mem_append_left _ mem
  · exact mem

def Uses (groupIdHex senderHex : String) (nonce : Nonce) (recording : Recording) : Prop :=
  recording.frame.groupIdHex = groupIdHex ∧ recording.frame.senderHex = senderHex ∧
    parseNonce recording.frame.envelope.nonce = .ok nonce

def Ends (log messages : List HistoryEntry) : Prop :=
  ∃ older, log = older ++ messages ∧ (older ≠ [] → historyCap ≤ messages.length)

theorem Ends.push {log : List HistoryEntry} {shelved : Shelved} (ends : Ends log shelved.messages)
    (entry : HistoryEntry) : Ends (log ++ [content entry]) (shelved.push entry).messages := by
  obtain ⟨older, split, full⟩ := ends
  subst split
  by_cases capped : shelved.messages.length ≥ historyCap
  · refine ⟨older ++ shelved.messages.take 1, ?_, ?_⟩
    · simp only [Shelved.push, capped, if_true]
      rw [List.append_assoc, List.append_assoc, ← List.append_assoc (shelved.messages.take 1),
        List.take_append_drop]
    · simp only [Shelved.push, capped, if_true, List.length_append, List.length_drop,
        List.length_singleton]
      omega
  · have none : older = [] := by
      by_contra some
      exact capped (full some)
    refine ⟨[], ?_, fun some => absurd rfl some⟩
    simp only [Shelved.push, capped, if_false, none, List.nil_append]

/-- Every message whose nonce is sealed is in the history or still with a delivery. -/
structure Accounted (crypto : ChatCrypto) (shelves : String → Option Shelved)
    (deliveries : List Delivery) (recorded : List Recording)
    (log : String → List HistoryEntry) : Prop where
  bounded : ∀ groupIdHex shelved, shelves groupIdHex = some shelved →
    Ends (log groupIdHex) shelved.messages
  windowed : ∀ groupIdHex shelved, shelves groupIdHex = some shelved →
    ∀ senderHex, ∀ nonce ∈ shelved.window senderHex,
      ∃ recording ∈ recorded, Uses groupIdHex senderHex nonce recording
  filed : ∀ recording ∈ recorded, (shelves recording.frame.groupIdHex).isSome
  placed : ∀ delivery ∈ deliveries, delivery.carries crypto ≠ none →
    (shelves delivery.frame.groupIdHex).isSome
  carried : ∀ recording ∈ recorded, ∀ entry ∈ recording.entry,
    entry ∈ log recording.frame.groupIdHex ∨ ∃ delivery ∈ deliveries,
      delivery.frame = recording.frame ∧ delivery.carries crypto = some entry

namespace Accounted
variable {crypto : ChatCrypto} {shelves : String → Option Shelved} {deliveries : List Delivery}
  {recorded : List Recording} {log : String → List HistoryEntry}
  (accounted : Accounted crypto shelves deliveries recorded log)
include accounted

theorem deliver (frame : Frame) :
    Accounted crypto shelves (deliveries ++ [⟨frame, .looking⟩]) recorded log where
  bounded := accounted.bounded
  windowed := accounted.windowed
  filed := accounted.filed
  placed := by
    intro delivery mem carrying
    rcases List.mem_append.mp mem with old | new
    · exact accounted.placed delivery old carrying
    · cases List.mem_singleton.mp new
      exact absurd rfl carrying
  carried := by
    intro recording mem entry opened
    rcases accounted.carried recording mem entry opened with sealed | ⟨delivery, under, carrying⟩
    · exact .inl sealed
    · exact .inr ⟨delivery, List.mem_append_left _ under, carrying⟩

theorem advance (slot : deliveries[i]? = some before)
    (moves : ∀ entry, before.carries crypto = some entry →
      entry ∈ log before.frame.groupIdHex ∨
        after.frame = before.frame ∧ after.carries crypto = some entry)
    (place : after.carries crypto ≠ none → (shelves after.frame.groupIdHex).isSome) :
    Accounted crypto shelves (deliveries.set i after) recorded log where
  bounded := accounted.bounded
  windowed := accounted.windowed
  filed := accounted.filed
  placed := by
    intro delivery mem carrying
    rcases List.mem_or_eq_of_mem_set mem with old | rfl
    · exact accounted.placed delivery old carrying
    · exact place carrying
  carried := by
    intro recording mem entry opened
    rcases accounted.carried recording mem entry opened with
      sealed | ⟨delivery, under, named, carrying⟩
    · exact .inl sealed
    · rcases mem_set_or_eq slot under after with still | rfl
      · exact .inr ⟨delivery, still, named, carrying⟩
      · rcases moves entry carrying with sealed | ⟨same, carried⟩
        · exact .inl (named ▸ sealed)
        · obtain ⟨inside, _⟩ := List.getElem?_eq_some_iff.mp slot
          exact .inr ⟨after, List.mem_set inside after, same.trans named, carried⟩

variable {shelved : Shelved}

theorem note (stored : shelves frame.groupIdHex = some shelved)
    (parses : parseNonce frame.envelope.nonce = .ok nonce)
    (under : ∀ message ∈ entry, ∃ delivery ∈ deliveries,
      delivery.frame = frame ∧ delivery.carries crypto = some message) :
    Accounted crypto (update shelves frame.groupIdHex
      (some (shelved.note frame.senderHex nonce))) deliveries (recorded ++ [⟨frame, entry⟩]) log where
  bounded := forall_update (accounted.bounded _ shelved stored)
    fun groupIdHex other _ held => accounted.bounded groupIdHex other held
  windowed := by
    have earlier : ∀ groupIdHex known, shelves groupIdHex = some known → ∀ senderHex,
        ∀ seen ∈ known.window senderHex,
          ∃ recording ∈ recorded ++ [⟨frame, entry⟩], Uses groupIdHex senderHex seen recording := by
      intro groupIdHex known held senderHex seen mem
      obtain ⟨recording, old, uses⟩ := accounted.windowed groupIdHex known held senderHex seen mem
      exact ⟨recording, List.mem_append_left _ old, uses⟩
    refine forall_update ?_ fun groupIdHex other _ held => earlier groupIdHex other held
    intro senderHex seen mem
    rcases Shelved.mem_window_note mem with old | ⟨rfl, rfl⟩
    · exact earlier _ shelved stored senderHex seen old
    · exact ⟨⟨frame, entry⟩, List.mem_append_right _ (List.mem_singleton_self _), rfl, rfl, parses⟩
  filed := by
    intro recording mem
    apply isSome_update
    rcases List.mem_append.mp mem with old | new
    · exact accounted.filed recording old
    · cases List.mem_singleton.mp new
      exact Option.isSome_iff_exists.mpr ⟨shelved, stored⟩
  placed := fun delivery mem carrying => isSome_update (accounted.placed delivery mem carrying) _ _
  carried := by
    intro recording mem message opened
    rcases List.mem_append.mp mem with old | new
    · exact accounted.carried recording old message opened
    · cases List.mem_singleton.mp new
      exact .inr (under message opened)

theorem push (stored : shelves groupIdHex = some shelved) (entry : HistoryEntry) :
    Accounted crypto (update shelves groupIdHex (some (shelved.push entry))) deliveries
      recorded (update log groupIdHex (log groupIdHex ++ [content entry])) where
  bounded := by
    refine forall_update ?_ ?_
    · rw [update_self]
      exact (accounted.bounded groupIdHex shelved stored).push entry
    · intro query other away held
      rw [update_of_ne away]
      exact accounted.bounded query other held
  windowed := forall_update (accounted.windowed groupIdHex shelved stored)
    fun query other _ held => accounted.windowed query other held
  filed := fun recording mem => isSome_update (accounted.filed recording mem) _ _
  placed := fun delivery mem carrying => isSome_update (accounted.placed delivery mem carrying) _ _
  carried := by
    intro recording mem message opened
    rcases accounted.carried recording mem message opened with sealed | under
    · exact .inl (mem_update_append sealed _ _)
    · exact .inr under

theorem restart (idle : ∀ delivery ∈ deliveries, delivery.stage.midway = false) :
    Accounted crypto shelves [] recorded log where
  bounded := accounted.bounded
  windowed := accounted.windowed
  filed := accounted.filed
  placed := by simp
  carried := by
    intro recording mem entry opened
    rcases accounted.carried recording mem entry opened with
      sealed | ⟨delivery, under, _, carrying⟩
    · exact .inl sealed
    · rw [Delivery.carries, Stage.carries_of_not_midway (idle delivery under)] at carrying
      cases carrying

theorem vouches (stored : shelves frame.groupIdHex = some shelved)
    (parses : parseNonce frame.envelope.nonce = .ok nonce)
    (seen : nonce ∈ shelved.window frame.senderHex)
    (unique : ∀ recording ∈ recorded, recording.frame.SharesNonce frame → recording.frame = frame)
    (idle : ∀ delivery ∈ deliveries, delivery.frame = frame → delivery.stage.midway = false) :
    Answer.Vouches (Logged shelves log) ⟨frame, .replayDetected frame.groupIdHex frame.senderHex,
      recorded.filter (·.frame = frame)⟩ := by
  refine ⟨?_, ?_⟩
  · obtain ⟨recording, mem, group, sender, parsed⟩ :=
      accounted.windowed frame.groupIdHex shelved stored frame.senderHex nonce seen
    have same := unique recording mem ⟨hexId_injective group, hexId_injective sender,
      parseNonce_injective parsed parses⟩
    exact List.ne_nil_of_mem (List.mem_filter.mpr ⟨mem, decide_eq_true same⟩)
  · intro recording listed entry opened
    obtain ⟨mem, same⟩ := List.mem_filter.mp listed
    have same := of_decide_eq_true same
    refine ⟨Option.isSome_iff_exists.mpr ⟨shelved, stored⟩, ?_⟩
    rcases accounted.carried recording mem entry opened with
      sealed | ⟨delivery, under, named, carrying⟩
    · exact same ▸ sealed
    · rw [Delivery.carries,
        Stage.carries_of_not_midway (idle delivery under (named.trans same))] at carrying
      cases carrying

end Accounted

namespace System

structure Sound (crypto : ChatCrypto) (system : System) : Prop where
  synced : system.registry.Synced
  accounted : Accounted crypto (shelf system.registry) system.deliveries system.recorded
    system.log
  vouched : ∀ answer ∈ system.answers, answer.Vouches (Logged (shelf system.registry) system.log)

def Fresh (reg : Registry) : Prop :=
  reg.byGroupId = ∅ ∧ ∀ groupIdHex conv, reg.onDisk groupIdHex = some conv → conv.seenNonces = ∅

theorem start_sound (fresh : Fresh reg) (crypto : ChatCrypto) :
    (start reg).Sound crypto where
  synced := by
    intro groupIdHex conv cached
    change reg.byGroupId.lookup groupIdHex = some conv at cached
    rw [fresh.1] at cached
    cases cached
  accounted := {
    bounded := by
      intro groupIdHex shelved stored
      obtain ⟨conv, held, rfl⟩ := Option.map_eq_some_iff.mp stored
      refine ⟨[], ?_, fun some => absurd rfl some⟩
      change ((reg.onDisk groupIdHex).map messages).getD [] = _
      change reg.onDisk groupIdHex = some conv at held
      rw [held]
      rfl
    windowed := by
      intro groupIdHex shelved stored senderHex nonce mem
      obtain ⟨conv, held, rfl⟩ := Option.map_eq_some_iff.mp stored
      change nonce ∈ (conv.seenNonces.lookup senderHex).getD [] at mem
      rw [fresh.2 groupIdHex conv held] at mem
      cases mem
    filed := by simp [start]
    placed := by simp [start]
    carried := by simp [start] }
  vouched := by simp [start]

theorem Sound.confirmed {system : System} (sound : system.Sound crypto) :
    system.Confirmed := by
  intro answer mem
  refine (sound.vouched answer mem).mono ?_
  intro groupIdHex entry logged
  obtain ⟨shelved, stored⟩ := Option.isSome_iff_exists.mp logged.1
  obtain ⟨older, whole, full⟩ := sound.accounted.bounded groupIdHex shelved stored
  obtain ⟨conv, held, rfl⟩ := Option.map_eq_some_iff.mp stored
  refine ⟨conv, older, held, whole, ?_⟩
  rcases List.mem_append.mp (whole ▸ logged.2) with gone | there
  · right
    refine ⟨gone, ?_⟩
    have long := full (List.ne_nil_of_mem gone)
    simpa [shelve, messages] using long
  · exact .inl there

namespace Sound
variable {crypto : ChatCrypto} {system : System} (sound : system.Sound crypto)
include sound

theorem quiet (quiet : Quiet system.registry after) :
    Sound crypto { system with registry := after } where
  synced := quiet.1
  accounted := by
    rw [quiet.2]
    exact sound.accounted
  vouched := by
    rw [quiet.2]
    exact sound.vouched

theorem send (groupIdHex : String) (entry : HistoryEntry) (fault : Option ChatError) :
    (system.step crypto (.send groupIdHex entry fault)).Sound crypto := by
  have spec := appendHistory_spec sound.synced groupIdHex entry fault
  unfold step
  dsimp only
  generalize appendHistory system.registry groupIdHex entry fault = sent at spec ⊢
  cases spec with
  | refused error after quiet cause => exact sound.quiet quiet
  | appended shelved after synced stored pushed =>
    refine ⟨synced, ?_, ?_⟩
    · rw [pushed]
      exact sound.accounted.push stored entry
    · intro answer mem
      refine (sound.vouched answer mem).mono ?_
      intro query message logged
      rw [pushed]
      exact ⟨isSome_update logged.1 _ _, mem_update_append logged.2 _ _⟩

theorem restart (idle : ∀ delivery ∈ system.deliveries, delivery.stage.midway = false) :
    (system.step crypto .restart).Sound crypto where
  synced := by
    intro groupIdHex conv cached
    cases cached
  accounted := sound.accounted.restart idle
  vouched := sound.vouched

section
variable {i : Nat} {env : DispatchEnv} {frame : Frame} {stage next : Stage} {after : Registry}
  (slot : system.deliveries[i]? = some ⟨frame, stage⟩)
include slot

theorem idle (quiet : Quiet system.registry after) (next : Stage)
    (carries : next.carries crypto frame = stage.carries crypto frame) {answers : List Answer}
    (plain : ∀ answer ∈ answers, answer.Vouches (Logged (shelf system.registry) system.log)) :
    Sound crypto ⟨after, system.deliveries.set i ⟨frame, next⟩, system.recorded, system.log,
      system.answers ++ answers⟩ where
  synced := quiet.1
  accounted := by
    rw [quiet.2]
    refine sound.accounted.advance slot (fun entry carrying => ?_) fun carrying => ?_
    · exact .inr ⟨rfl, carries.trans carrying⟩
    · exact sound.accounted.placed ⟨frame, stage⟩ (List.mem_of_getElem? slot)
        fun none => carrying (carries.trans none)
  vouched := by
    rw [quiet.2]
    intro answer mem
    rcases List.mem_append.mp mem with old | new
    · exact sound.vouched answer old
    · exact plain answer new

theorem note (before : stage.carries crypto frame = none)
    (parses : parseNonce frame.envelope.nonce = .ok nonce) (synced : after.Synced)
    (stored : shelf system.registry frame.groupIdHex = some shelved)
    (noted : shelf after = update (shelf system.registry) frame.groupIdHex
      (some (shelved.note frame.senderHex nonce))) :
    Sound crypto ⟨after, system.deliveries.set i ⟨frame, next⟩,
      system.recorded ++ [⟨frame, next.carries crypto frame⟩], system.log, system.answers⟩ where
  synced := synced
  accounted := by
    rw [noted]
    have placed : Accounted crypto (shelf system.registry)
        (system.deliveries.set i ⟨frame, next⟩) system.recorded system.log :=
      sound.accounted.advance slot (fun entry carrying => by cases before.symm.trans carrying)
        fun _ => Option.isSome_iff_exists.mpr ⟨shelved, stored⟩
    obtain ⟨inside, _⟩ := List.getElem?_eq_some_iff.mp slot
    exact placed.note stored parses fun message opened =>
      ⟨⟨frame, next⟩, List.mem_set inside _, rfl, opened⟩
  vouched := by
    rw [noted]
    intro answer mem
    exact (sound.vouched answer mem).mono fun _ _ logged =>
      ⟨isSome_update logged.1 _ _, logged.2⟩

theorem append (before : stage.carries crypto frame = some (payload.entry frame.senderHex))
    (synced : after.Synced) (stored : shelf system.registry frame.groupIdHex = some shelved)
    (pushed : shelf after = update (shelf system.registry) frame.groupIdHex
      (some (shelved.push (payload.entry frame.senderHex))))
    (result : Except ChatError InboundDispatch) (earlier : List Recording) :
    Sound crypto ⟨after, system.deliveries.set i ⟨frame, .done result⟩, system.recorded,
      update system.log frame.groupIdHex
        (system.log frame.groupIdHex ++ [payload.entry frame.senderHex]),
      system.answers ++
        [⟨frame, .message frame.groupIdHex frame.senderHex payload, earlier⟩]⟩ where
  synced := synced
  accounted := by
    rw [pushed]
    refine (sound.accounted.push stored (payload.entry frame.senderHex)).advance slot ?_
      (fun carrying => absurd rfl carrying)
    intro entry carrying
    cases before.symm.trans carrying
    rw [update_self]
    exact .inl (List.mem_append_right _ (List.mem_singleton_self _))
  vouched := by
    rw [pushed]
    intro answer mem
    rcases List.mem_append.mp mem with old | new
    · exact (sound.vouched answer old).mono fun _ _ logged =>
        ⟨isSome_update logged.1 _ _, mem_update_append logged.2 _ _⟩
    · cases List.mem_singleton.mp new
      refine ⟨isSome_update (Option.isSome_iff_exists.mpr ⟨shelved, stored⟩) _ _, ?_⟩
      dsimp only
      rw [update_self]
      exact List.mem_append_right _ (List.mem_singleton_self _)

theorem turn (unfinished : ∀ result, stage ≠ .done result)
    (clear : system.Clear env (some ⟨frame, stage⟩)) :
    (system.turn crypto i env frame stage).Sound crypto := by
  have current : ∀ conv, stage = .inserting conv →
      system.registry.onDisk frame.groupIdHex = some conv := by
    intro conv same
    subst same
    exact clear
  have spec : TurnSpec crypto env frame system.registry stage _ :=
    turn_spec sound.synced stage unfinished current
  unfold System.turn
  generalize stage.step crypto env frame system.registry = next at spec ⊢
  cases spec with
  | idle next after quiet carries unrecorded unlogged plain =>
    dsimp only
    rw [unrecorded, unlogged, Option.toList_none, List.append_nil]
    refine sound.idle slot quiet next carries fun answer mem => ?_
    obtain ⟨verdict, answers, rfl⟩ := List.mem_map.mp mem
    exact plain verdict (Option.mem_toList.mp answers) _ _
  | recorded next after nonce shelved parses synced stored noted records unanswered =>
    dsimp only
    rw [records, unanswered, Option.toList_none, List.map_nil, List.append_nil]
    exact sound.note slot rfl parses synced stored noted
  | replayed after nonce shelved parses quiet stored seen =>
    dsimp only [recording, Option.toList_none]
    rw [List.append_nil]
    refine sound.idle slot quiet (.done _) rfl fun answer mem => ?_
    cases List.mem_singleton.mp mem
    exact sound.accounted.vouches stored parses seen clear.1 clear.2
  | appended after shelved synced stored pushed grown =>
    dsimp only [recording, Option.toList_none]
    rw [grown, List.append_nil]
    exact sound.append slot rfl synced stored pushed _ _
  | unsaved after cause =>
    have there := sound.accounted.placed _ (List.mem_of_getElem? slot)
      (by simp [Delivery.carries, Stage.carries])
    rcases cause with faulty | missing
    · exact absurd clear faulty
    · rw [missing] at there
      cases there

end

theorem advance (clear : system.Clear env system.deliveries[i]?) :
    (system.advance crypto i env).Sound crypto := by
  unfold System.advance
  cases slot : system.deliveries[i]? with
  | none => exact sound
  | some delivery =>
    rw [slot] at clear
    obtain ⟨frame, stage⟩ := delivery
    cases stage with
    | done result => exact sound
    | _ => exact sound.turn slot (by simp) clear

theorem step (orderly : system.Orderly event) :
    (system.step crypto event).Sound crypto := by
  cases event with
  | deliver frame => exact ⟨sound.synced, sound.accounted.deliver frame, sound.vouched⟩
  | advance i env => exact sound.advance orderly
  | send groupIdHex entry fault => exact sound.send groupIdHex entry fault
  | rekey groupIdHex env envelope payload senderAgentHex =>
    exact sound.quiet (quiet_rekey sound.synced groupIdHex env envelope payload senderAgentHex)
  | restart => exact sound.restart orderly

end Sound

end System

def toyFrame : Frame where
  groupId := bobGroup
  envelope := { idealEnvelope .dm bobGroup 5 bobKey [] with
    ciphertext := List.replicate 32 5 ++ messageAad bobGroup 5 }

def toyChat : ChatCrypto := idealChat [] (idealPayload "" 0 [] []) emptyMessage emptyReceipt

def toyRegistry : Registry := emptyRegistry.sealFile (hexId bobGroup) bobConversation

def toyEntry : HistoryEntry := emptyMessage.entry (hexId bobId)

def toyReplay : InboundDispatch := .replayDetected (hexId bobGroup) (hexId bobId)

def turns (delivery count : Nat) : List Event := List.replicate count (.advance delivery quietEnv)

theorem toyRegistry_fresh : System.Fresh toyRegistry := by
  refine ⟨rfl, ?_⟩
  intro groupIdHex conv held
  have filed := Registry.onDisk_eq_some.mp held
  unfold toyRegistry Registry.sealFile at filed
  rw [Registry.lookup_insert] at filed
  split at filed
  · cases filed
    rfl
  · cases filed

namespace System

/-- In an orderly run every message that was confirmed is in the history on disk. -/
theorem confirmed_of_orderly (crypto : ChatCrypto) (reg : Registry) (events : List Event)
    (fresh : Fresh reg) (orderly : Meets (System.step crypto) Orderly (start reg) events) :
    (run (System.step crypto) (start reg) events).Confirmed :=
  (run_invariant (Sound crypto) (fun _ _ sound orderly => sound.step orderly) events (start reg)
    (start_sound fresh crypto) orderly).confirmed

/-- A message that is delivered, delivered again, and again after a restart. -/
theorem repeated_delivery_confirmed :
    let events := Event.deliver toyFrame :: turns 0 7 ++ Event.deliver toyFrame :: turns 1 2 ++
      .restart :: .deliver toyFrame :: turns 0 4
    let system := run (step toyChat) (start toyRegistry) events
    Fresh toyRegistry ∧ Meets (step toyChat) Orderly (start toyRegistry) events ∧
      system.answers.map (·.verdict) =
        [.message (hexId bobGroup) (hexId bobId) emptyMessage, toyReplay, toyReplay] ∧
      system.Confirmed := by
  intro events system
  have orderly : Meets (step toyChat) Orderly (start toyRegistry) events := by decide +kernel
  exact ⟨toyRegistry_fresh, orderly, by decide +kernel,
    confirmed_of_orderly toyChat toyRegistry events toyRegistry_fresh orderly⟩

theorem not_confirmed_of_empty {system : System} {recording : Recording}
    (mem : answer ∈ system.answers)
    (replayed : answer.verdict = .replayDetected groupIdHex senderHex)
    (listed : recording ∈ answer.earlier) (opened : recording.entry = some entry)
    (held : system.registry.onDisk groupIdHex = some conv) (empty : conv.history = []) :
    ¬ system.Confirmed := by
  intro confirmed
  have vouches := confirmed answer mem
  unfold Answer.Vouches at vouches
  rw [replayed] at vouches
  obtain ⟨other, older, held', _, there | ⟨_, full⟩⟩ := vouches.2 recording listed entry opened
  · cases held.symm.trans held'
    rw [messages, empty] at there
    cases there
  · cases held.symm.trans held'
    rw [empty] at full
    exact absurd full (by decide)

/-- The process stops after the nonce of a message was sealed and before its history entry was.
The redelivery is confirmed as a replay, and the history never gets the message. -/
theorem stopped_delivery_confirms_lost_message :
    let events := Event.deliver toyFrame :: turns 0 4 ++ .restart :: .deliver toyFrame :: turns 0 4
    let system := run (step toyChat) (start toyRegistry) events
    Fresh toyRegistry ∧ confirmsDelivery toyReplay = true ∧
      system.answers = [⟨toyFrame, toyReplay, [⟨toyFrame, some toyEntry⟩]⟩] ∧
      (system.registry.onDisk (hexId bobGroup)).map (·.history) = some [] ∧
      ¬ system.Confirmed := by
  intro events system
  have answers : system.answers = [⟨toyFrame, toyReplay, [⟨toyFrame, some toyEntry⟩]⟩] := by
    decide +kernel
  have empty : (system.registry.onDisk (hexId bobGroup)).map (·.history) = some [] := by
    decide +kernel
  obtain ⟨conv, held, none⟩ := Option.map_eq_some_iff.mp empty
  refine ⟨toyRegistry_fresh, rfl, answers, empty, ?_⟩
  exact not_confirmed_of_empty (by rw [answers]; exact List.mem_singleton_self _) rfl
    (List.mem_singleton_self _) rfl held none

end System

end Fetchit.Chat.Redelivery
