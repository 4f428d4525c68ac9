import Fetchit.Chat.Interleaving

/-! Welcomes for one group that are handled at the same time. A Welcome looks the conversation up,
and then either installs the one it carries or folds its key into the one that is there. Only the
fold is one locked section: the lookup, the file of a first install and its cache entry are
separate steps, and another Welcome may take a step between any two of them. -/
namespace Fetchit.Chat.WelcomeRace
open Lib.Run Proto.Envelope

/-- A verified Welcome: its checks have bound the epoch of the payload to that of the envelope. -/
structure Arrival where
  groupIdHex : String
  envelope : TransitEnvelope
  payload : WelcomePayload
  senderAgentHex : String
  trustState : TrustState
  env : DispatchEnv
  bound : payload.epoch = envelope.epoch

def Arrival.conversation (arrival : Arrival) : Conversation :=
  .fromWelcome arrival.env.installClock arrival.payload arrival.trustState

def Arrival.installed (arrival : Arrival) : InboundDispatch :=
  if arrival.trustState = .pending then .welcomedPending arrival.conversation
  else .welcomed arrival.conversation

def Arrival.rekey (arrival : Arrival) (reg : Registry) :
    Except ChatError InboundDispatch × Registry :=
  match reg.mutateInPlace arrival.groupIdHex arrival.env.installFault
      (Conversation.resolveRekey arrival.env arrival.envelope arrival.payload
        arrival.senderAgentHex) with
  | (.error error, reg) => (.error error, reg)
  | (.ok .ignored, reg) => (.ok .welcomeIgnored, reg)
  | (.ok .notMember, reg) => (.ok (.dropped "rekey-from-non-member" arrival.senderAgentHex), reg)
  | (.ok (.rekeyed conv), reg) => (.ok (.rekeyed conv), reg)

/-- How far a Welcome has come. No lock is held between two steps. -/
inductive Task where
  | lookup (arrival : Arrival)
  | read (arrival : Arrival)
  | fill (arrival : Arrival) (conv : Conversation)
  | sealFile (arrival : Arrival)
  | publish (arrival : Arrival)
  | rekey (arrival : Arrival)
  | done (result : Except ChatError InboundDispatch)

def Task.step (reg : Registry) : Task → Task × Registry
  | .lookup arrival =>
    match reg.byGroupId.lookup arrival.groupIdHex with
    | some _ => (.rekey arrival, reg)
    | none => (.read arrival, reg)
  | .read arrival =>
    match reg.openConversation arrival.groupIdHex with
    | .error error => (.done (.error error), reg)
    | .ok none => (.sealFile arrival, reg)
    | .ok (some conv) => (.fill arrival conv, reg)
  | .fill arrival conv => (.rekey arrival, reg.enter arrival.groupIdHex conv)
  | .sealFile arrival =>
    match arrival.env.installFault with
    | some error => (.done (.error error), reg)
    | none =>
      (.publish arrival, reg.sealFile arrival.payload.groupIdHex arrival.conversation)
  | .publish arrival =>
    (.done (.ok arrival.installed),
      reg.enter arrival.payload.groupIdHex arrival.conversation)
  | .rekey arrival =>
    let outcome := arrival.rekey reg
    (.done outcome.1, outcome.2)
  | .done result => (.done result, reg)

structure System where
  registry : Registry
  tasks : List Task

namespace System

def boot (registry : Registry) (arrivals : List Arrival) : System :=
  ⟨registry, arrivals.map .lookup⟩

def step (system : System) (turn : Nat) : System :=
  match system.tasks[turn]? with
  | none => system
  | some task =>
    let outcome := task.step system.registry
    ⟨outcome.2, system.tasks.set turn outcome.1⟩

end System

/-- Alone, a Welcome is through after four turns at most, and does what the handler does. -/
theorem solo_install (arrival : Arrival) (reg : Registry) (turns : List Unit) :
    run (fun (state : Task × Registry) (_ : Unit) => state.1.step state.2) (.lookup arrival, reg)
        ([(), (), (), ()] ++ turns) =
      let outcome := installOrRekeyConversation arrival.env reg arrival.envelope arrival.payload
        arrival.senderAgentHex arrival.groupIdHex arrival.trustState
      (.done outcome.1, outcome.2) := by
  have done : ∀ result reg, run (fun (state : Task × Registry) (_ : Unit) => state.1.step state.2)
      (.done result, reg) turns = (.done result, reg) := by
    intro result reg
    induction turns with
    | nil => rfl
    | cons turn turns ih => exact ih
  simp only [run_append, run_cons, Task.step, installOrRekeyConversation, Registry.get]
  cases cached : reg.byGroupId.lookup arrival.groupIdHex with
  | some conv => exact done _ _
  | none =>
    dsimp only
    cases opened : reg.openConversation arrival.groupIdHex with
    | error error => exact done _ _
    | ok found =>
      cases found with
      | some conv => exact done _ _
      | none =>
        dsimp only
        cases fault : arrival.env.installFault <;> exact done _ _

/-! What the registry answers for a group moves forward only. -/

def Advances : Option Conversation → Option Conversation → Prop
  | none, _ => True
  | some _, none => False
  | some before, some after =>
    before.currentEpoch < after.currentEpoch ∨
      (after.currentEpoch = before.currentEpoch ∧ after.currentKeyB64 = before.currentKeyB64)

theorem advances_refl (stored : Option Conversation) : Advances stored stored := by
  cases stored with
  | none => trivial
  | some conv => exact .inr ⟨rfl, rfl⟩

theorem advances_trans (start : Advances first second)
    (rest : Advances second third) : Advances first third := by
  cases first with
  | none => trivial
  | some first =>
    cases second with
    | none => exact start.elim
    | some second =>
      cases third with
      | none => exact rest.elim
      | some third =>
        simp only [Advances] at start rest ⊢
        rcases rest with later | ⟨sameEpoch, sameKey⟩
        · rcases start with _ | ⟨_, _⟩ <;> omega
        · rw [sameEpoch, sameKey]
          exact start

theorem advances_update (ahead : Advances (stored target) value) (query : String) :
    Advances (stored query) (Function.update stored target value query) := by
  by_cases same : query = target
  · subst same
    rw [Function.update_self]
    exact ahead
  · rw [Function.update_of_ne same]
    exact advances_refl _

theorem advances_resolveRekey (arrival : Arrival) (conv : Conversation) :
    Advances (some conv) (some ((Registry.sealed arrival.env.installFault
      (Conversation.resolveRekey arrival.env arrival.envelope arrival.payload
        arrival.senderAgentHex) conv).getD conv)) := by
  unfold Registry.sealed Conversation.resolveRekey
  cases arrival.env.installFault with
  | some error => exact advances_refl _
  | none =>
    by_cases stale : arrival.envelope.epoch ≤ conv.currentEpoch
    · rw [if_pos stale]
      exact advances_refl _
    · rw [if_neg stale]
      by_cases member : hasDevice conv.members arrival.senderAgentHex
      · rw [if_pos member]
        left
        have landed : (conv.rekey arrival.env.installClock arrival.env.sweepClock
            arrival.payload).currentEpoch = arrival.payload.epoch := rfl
        have bound := arrival.bound
        simp only [Option.getD_some]
        omega
      · rw [if_neg member]
        exact advances_refl _

theorem Arrival.rekey_registry (arrival : Arrival) (reg : Registry) :
    (arrival.rekey reg).2 = (reg.mutateInPlace arrival.groupIdHex arrival.env.installFault
      (Conversation.resolveRekey arrival.env arrival.envelope arrival.payload
        arrival.senderAgentHex)).2 := by
  unfold Arrival.rekey
  split <;> simp_all

theorem Arrival.advances_rekey (arrival : Arrival) (reg : Registry) (groupIdHex : String) :
    Advances (reg.stored groupIdHex) ((arrival.rekey reg).2.stored groupIdHex) := by
  rw [arrival.rekey_registry, Registry.stored_mutateInPlace]
  apply advances_update
  cases reg.stored arrival.groupIdHex with
  | none => trivial
  | some conv => exact advances_resolveRekey arrival conv

variable {reg : Registry} {groupIdHex : String}

theorem advances_sealFile (absent : reg.stored groupIdHex = none) (conv : Conversation)
    (query : String) :
    Advances (reg.stored query) ((reg.sealFile groupIdHex conv).stored query) := by
  by_cases same : query = groupIdHex
  · subst same
    rw [absent]
    trivial
  · have kept : (reg.sealFile groupIdHex conv).stored query = reg.stored query := by
      simp [Registry.stored, Registry.onDisk, Registry.sealFile, same]
    rw [kept]
    exact advances_refl _

/-- What a step writes without a lock it still finds as it read it: a conversation from a file is
the stored one, and what is installed goes where nothing is stored. -/
def Task.Unraced (reg : Registry) : Task → Prop
  | .fill arrival conv => reg.stored arrival.groupIdHex = some conv
  | .sealFile arrival => arrival.env.installFault = none →
      reg.stored arrival.payload.groupIdHex = none
  | .publish arrival =>
    reg.stored arrival.payload.groupIdHex = some arrival.conversation
  | _ => True

instance (reg : Registry) (task : Task) : Decidable (task.Unraced reg) := by
  unfold Task.Unraced
  split <;> infer_instance

theorem Task.advances_step {task : Task} (unraced : task.Unraced reg) (groupIdHex : String) :
    Advances (reg.stored groupIdHex) ((task.step reg).2.stored groupIdHex) := by
  cases task with
  | lookup | read =>
    simp only [Task.step]
    split <;> exact advances_refl _
  | fill | publish =>
    simp only [Task.step, Registry.stored_enter]
    apply advances_update
    rw [unraced]
    exact advances_refl _
  | sealFile arrival =>
    simp only [Task.step]
    cases fault : arrival.env.installFault with
    | some error => exact advances_refl _
    | none => exact advances_sealFile (unraced fault) arrival.conversation groupIdHex
  | rekey arrival => exact arrival.advances_rekey reg groupIdHex
  | done result => exact advances_refl _

namespace System

def Unraced (system : System) (turn : Nat) : Prop :=
  ∀ task ∈ system.tasks[turn]?, task.Unraced system.registry

instance (system : System) (turn : Nat) : Decidable (system.Unraced turn) :=
  inferInstanceAs (Decidable (∀ task ∈ system.tasks[turn]?, task.Unraced system.registry))

theorem advances_step {system : System} (unraced : system.Unraced turn) (groupIdHex : String) :
    Advances (system.registry.stored groupIdHex)
      ((system.step turn).registry.stored groupIdHex) := by
  unfold step
  cases found : system.tasks[turn]? with
  | none => exact advances_refl _
  | some task => exact Task.advances_step (unraced task found) groupIdHex

theorem advances_run (groupIdHex : String) (turns : List Nat) :
    ∀ system : System, Meets step Unraced system turns →
      Advances (system.registry.stored groupIdHex)
        ((run step system turns).registry.stored groupIdHex) := by
  induction turns with
  | nil =>
    intro system _
    exact advances_refl _
  | cons turn turns ih =>
    intro system meets
    exact advances_trans (advances_step meets.1 groupIdHex) (ih _ meets.2)

end System

/-- Between any two moments of a schedule in which no Welcome writes over what another one wrote
after it looked, the epoch of a stored conversation does not fall, and at the same epoch the key
is the same. -/
theorem welcome_epochs_advance (system : System) (groupIdHex : String) (first second : List Nat)
    (unraced : Meets System.step System.Unraced system (first ++ second)) (before : Conversation)
    (held : (run System.step system first).registry.stored groupIdHex = some before) :
    ∃ after, (run System.step system (first ++ second)).registry.stored groupIdHex = some after ∧
      before.currentEpoch ≤ after.currentEpoch ∧
      (after.currentEpoch = before.currentEpoch → after.currentKeyB64 = before.currentKeyB64) := by
  rw [meets_append] at unraced
  have ahead := System.advances_run groupIdHex second _ unraced.2
  rw [held, ← run_append] at ahead
  cases stored : (run System.step system (first ++ second)).registry.stored groupIdHex with
  | none =>
    rw [stored] at ahead
    exact ahead.elim
  | some after =>
    rw [stored] at ahead
    refine ⟨after, rfl, ?_⟩
    rcases ahead with later | ⟨sameEpoch, sameKey⟩
    · constructor <;> omega
    · exact ⟨sameEpoch.ge, fun _ => sameKey⟩

/-! Two Welcomes of one sender, the newer one first. -/

def bobWelcome (epoch : Nat) (key : String) : Arrival where
  groupIdHex := "g"
  envelope := idealEnvelope .groupChat freshGroup epoch bobKey [1]
  payload := ⟨"g", key, epoch, [⟨none, [⟨"b", "", none, 0, .active⟩], 0⟩], none⟩
  senderAgentHex := "b"
  trustState := .confirmed
  env := quietEnv
  bound := rfl

def newerFirst : System := .boot emptyRegistry [bobWelcome 2 "k2", bobWelcome 1 "k1"]

def storedEpochAndKey (system : System) : Option (Nat × String) :=
  (system.registry.stored "g").map fun conv => (conv.currentEpoch, conv.currentKeyB64)

theorem newer_welcome_kept_in_turn :
    Meets System.step System.Unraced newerFirst ([0, 0, 0, 0] ++ [1, 1]) ∧
    (run System.step newerFirst [0, 0, 0, 0]).registry.stored "g" =
      some (bobWelcome 2 "k2").conversation ∧
    ∃ after, (run System.step newerFirst ([0, 0, 0, 0] ++ [1, 1])).registry.stored "g" =
        some after ∧
      2 ≤ after.currentEpoch ∧ (after.currentEpoch = 2 → after.currentKeyB64 = "k2") := by
  have unraced : Meets System.step System.Unraced newerFirst ([0, 0, 0, 0] ++ [1, 1]) := by
    decide +kernel
  have first : (run System.step newerFirst [0, 0, 0, 0]).registry.stored "g" =
      some (bobWelcome 2 "k2").conversation := by
    decide +kernel
  exact ⟨unraced, first, welcome_epochs_advance newerFirst "g" _ _ unraced _ first⟩

/-- Both Welcomes look before either installs, and the older one installs last. The same happens
to a conversation whose file both read before either folds its key in. -/
theorem older_welcome_installed_last :
    storedEpochAndKey (run System.step newerFirst [0, 0, 1, 1, 0, 0]) = some (2, "k2") ∧
    storedEpochAndKey (run System.step newerFirst [0, 0, 1, 1, 0, 0, 1, 1]) = some (1, "k1") ∧
    let filed : Registry :=
      emptyRegistry.sealFile "g" (bobWelcome 1 "k1").conversation
    let cold : System := .boot filed [bobWelcome 3 "k3", bobWelcome 2 "k2"]
    storedEpochAndKey (run System.step cold [0, 0, 1, 1, 0, 0]) = some (3, "k3") ∧
    storedEpochAndKey (run System.step cold [0, 0, 1, 1, 0, 0, 1, 1]) = some (2, "k2") := by
  decide +kernel

end Fetchit.Chat.WelcomeRace
