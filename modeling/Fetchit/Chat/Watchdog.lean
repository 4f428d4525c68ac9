import Fetchit.Chat.KeptUpdates
import Fetchit.Chat.RekeyConvergence
import Fetchit.Chat.WelcomeRace

/-! The watchdog over conversations that are stuck. A conversation that keeps receiving frames it
cannot decrypt is recovered, unless its epoch has moved since the last progress. Frames, progress,
re-keys and Welcomes all write the marks that the watchdog reads, and only some of them set the
progress epoch again. -/
namespace Fetchit.Chat.Watchdog
open Lib Lib.Run Proto.Identity WelcomeRace Function Registry
open RekeyConvergence (lowAgent highAgent wedgedDm wedgedSide)

def wedgeThresholdMs : Nat := 60000

def wedgeRecentWindowMs : Nat := 90000

structure WedgeSignals where
  lastProgressMs : Nat
  recentReceiptActivity : Bool
  currentEpoch : Nat
  lastSeenEpoch : Nat

def wedgeShouldTrip (signals : WedgeSignals) (now threshold : Nat) : Bool :=
  if !signals.recentReceiptActivity then false
  else if signals.currentEpoch > signals.lastSeenEpoch then false
  else decide (now - signals.lastProgressMs ≥ threshold)

def groupsToRecover (now threshold : Nat) (groups : List (String × WedgeSignals)) : List String :=
  (groups.filter fun group => wedgeShouldTrip group.2 now threshold).map (·.1)

def wedgeSignals (now recentWindow : Nat) (conv : Conversation) : WedgeSignals where
  lastProgressMs := conv.wedgeLastProgressMs
  recentReceiptActivity := decide (conv.wedgeLastInboundMs > conv.wedgeLastProgressMs) &&
    decide (now - conv.wedgeLastInboundMs ≤ recentWindow)
  currentEpoch := conv.currentEpoch
  lastSeenEpoch := conv.wedgeProgressEpoch

def wedgeSnapshot (reg : Registry) (now recentWindow : Nat) : List (String × WedgeSignals) :=
  reg.byGroupId.entries.map fun entry => (entry.1, wedgeSignals now recentWindow entry.2)

inductive Event where
  | inbound (groupIdHex : String) (frameEpoch : Option Nat) (now : Nat) (fault : Option ChatError)
  | progress (groupIdHex : String) (now : Nat) (fault : Option ChatError)
  | sweep (envFor : String → RekeyEnv)
  | force (env : ForceEnv) (groupIdHex : String)
  | welcome (arrival : Arrival)

def step (reg : Registry) : Event → Registry
  | .inbound groupIdHex frameEpoch now fault =>
    reg.noteWedgeInbound groupIdHex frameEpoch now fault
  | .progress groupIdHex now fault => reg.noteWedgeProgress groupIdHex now fault
  | .sweep envFor => (sweepAutoRekey envFor reg).2
  | .force env groupIdHex => (forceRekeyDm env reg groupIdHex).2
  | .welcome arrival =>
    (installOrRekeyConversation arrival.env reg arrival.envelope arrival.payload
      arrival.senderAgentHex arrival.groupIdHex arrival.trustState).2

/-! When a conversation is handed to recovery. -/

def Rooted (conv : Conversation) : Prop := conv.currentEpoch ≤ conv.wedgeProgressEpoch

instance (conv : Conversation) : Decidable (Rooted conv) :=
  inferInstanceAs (Decidable (_ ≤ _))

/-- What the watchdog asks of the clocks: frames since the last progress, the latest one recent,
and the progress long enough ago. -/
structure Stalled (conv : Conversation) (now : Nat) : Prop where
  heard : conv.wedgeLastProgressMs < conv.wedgeLastInboundMs
  recent : now - conv.wedgeLastInboundMs ≤ wedgeRecentWindowMs
  overdue : wedgeThresholdMs ≤ now - conv.wedgeLastProgressMs

theorem wedgeShouldTrip_iff (conv : Conversation) (now : Nat) :
    wedgeShouldTrip (wedgeSignals now wedgeRecentWindowMs conv) now wedgeThresholdMs = true ↔
      Stalled conv now ∧ Rooted conv := by
  have clocks : Stalled conv now ↔ conv.wedgeLastProgressMs < conv.wedgeLastInboundMs ∧
      now - conv.wedgeLastInboundMs ≤ wedgeRecentWindowMs ∧
      wedgeThresholdMs ≤ now - conv.wedgeLastProgressMs :=
    ⟨fun stalled => ⟨stalled.heard, stalled.recent, stalled.overdue⟩,
      fun ⟨heard, recent, overdue⟩ => ⟨heard, recent, overdue⟩⟩
  rw [clocks, Rooted]
  by_cases moved : conv.wedgeProgressEpoch < conv.currentEpoch
  · simp [wedgeShouldTrip, wedgeSignals, moved]
  · simp only [wedgeShouldTrip, wedgeSignals, gt_iff_lt, Bool.not_and,
      Bool.or_eq_true, Bool.not_eq_eq_eq_not, Bool.not_true, decide_eq_false_iff_not,
      Bool.if_false_left, Bool.and_eq_true, decide_eq_true_eq]
    omega

variable {conv : Conversation}

theorem mem_wedgeSnapshot
    (cached : reg.byGroupId.lookup groupIdHex = some conv) (now recentWindow : Nat) :
    (groupIdHex, wedgeSignals now recentWindow conv) ∈ wedgeSnapshot reg now recentWindow :=
  List.mem_map.mpr ⟨⟨groupIdHex, conv⟩, AList.mem_lookup_iff.mp cached, rfl⟩

theorem mem_groupsToRecover :
    groupIdHex ∈ groupsToRecover now wedgeThresholdMs (wedgeSnapshot reg now wedgeRecentWindowMs) ↔
      ∃ conv, reg.byGroupId.lookup groupIdHex = some conv ∧ Stalled conv now ∧ Rooted conv := by
  constructor
  · intro recovered
    obtain ⟨group, kept, rfl⟩ := List.mem_map.mp recovered
    obtain ⟨listed, trips⟩ := List.mem_filter.mp kept
    obtain ⟨entry, cached, rfl⟩ := List.mem_map.mp listed
    exact ⟨entry.2, AList.mem_lookup_iff.mpr cached, (wedgeShouldTrip_iff _ _).mp trips⟩
  · rintro ⟨conv, cached, trips⟩
    have listed := mem_wedgeSnapshot cached now wedgeRecentWindowMs
    exact List.mem_map.mpr ⟨_, List.mem_filter.mpr
      ⟨listed, (wedgeShouldTrip_iff _ _).mpr trips⟩, rfl⟩

/-! What is stored for a group after a step. -/

section
variable {reg : Registry} {groupIdHex : String} {property : Conversation → Prop}

def Holds (reg : Registry) (groupIdHex : String) (property : Conversation → Prop) : Prop :=
  ∀ conv, reg.stored groupIdHex = some conv → property conv

theorem Holds.of_stored (held : Holds reg groupIdHex property)
    (same : after.stored groupIdHex = reg.stored groupIdHex) : Holds after groupIdHex property := by
  intro conv stored
  exact held conv (same.symm.trans stored)

theorem holds_update (written : after.stored = update reg.stored target value)
    (held : target ≠ groupIdHex → Holds reg groupIdHex property)
    (fine : target = groupIdHex → ∀ conv, value = some conv → property conv) :
    Holds after groupIdHex property := by
  intro conv stored
  rw [written] at stored
  by_cases same : target = groupIdHex
  · rw [same, update_self] at stored
    exact fine same conv stored
  · rw [update_of_ne (Ne.symm same)] at stored
    exact held same conv stored

theorem sealed_getD (holds : property conv) (keeps : property (mutate conv).2) :
    property ((sealed fault mutate conv).getD conv) := by
  unfold sealed
  split
  · rename_i acts
    rw [acts] at keeps
    exact keeps
  · exact holds

theorem Holds.mutateInPlace {mutate : Conversation → MutateAction α × Conversation}
    (held : Holds reg groupIdHex property)
    (keeps : ∀ conv, property conv → property (mutate conv).2) (target : String)
    (fault : Option ChatError) :
    Holds (reg.mutateInPlace target fault mutate).2 groupIdHex property := by
  refine holds_update (reg.stored_mutateInPlace target fault mutate) (fun _ => held) ?_
  intro same conv' changed
  obtain ⟨conv, stored, rfl⟩ := Option.map_eq_some_iff.mp changed
  exact sealed_getD (held conv (same ▸ stored)) (keeps conv (held conv (same ▸ stored)))

theorem Holds.inbound (held : Holds reg groupIdHex property)
    (keeps : ∀ conv now frameEpoch, property conv → property (conv.wedgeInbound now frameEpoch))
    (target : String) (frameEpoch : Option Nat) (now : Nat) (fault : Option ChatError) :
    Holds (reg.noteWedgeInbound target frameEpoch now fault) groupIdHex property :=
  held.mutateInPlace (fun conv => keeps conv now frameEpoch) target fault

theorem Holds.refreshConversationRoster (held : Holds reg groupIdHex property)
    (keeps : ∀ conv members, property conv → property { conv with members := members })
    (env : ForceEnv) (target : String) :
    Holds (refreshConversationRoster env reg target).2 groupIdHex property := by
  unfold Chat.refreshConversationRoster
  generalize looked : reg.get target = got
  have spec := looked ▸ reg.get_spec target
  cases spec with
  | failed | absent => exact held
  | found conv after known stored cached same =>
    have kept : Holds after groupIdHex property := held.of_stored (congrFun same _)
    dsimp only
    split
    · exact kept
    · split
      · exact kept
      · refine Holds.mutateInPlace ?_ ?_ target _
        · exact kept
        intro conv holds
        unfold refreshRoster
        dsimp only
        split
        · exact holds
        · exact keeps conv _ holds

end

/-! What keeps the epoch at the one of the last progress, and what brings it there. -/

theorem rooted_commit (env : RekeyEnv)
    (started : conv.currentEpoch = snapshot.currentEpoch ∨ Rooted conv) :
    Rooted (env.commit true snapshot conv).2 := by
  unfold RekeyEnv.commit
  split
  · exact Nat.le_refl _
  · rename_i raced
    rcases started with same | rooted
    · simp [same] at raced
    · exact rooted

inductive ForceSpec (env : ForceEnv) (reg : Registry) (groupIdHex : String) :
    Except ChatError Bool × Registry → Prop
  | idle (answer : Except ChatError Bool) (after : Registry) (unforced : answer ≠ .ok true)
      (same : after.stored = (refreshConversationRoster env reg groupIdHex).2.stored) :
      ForceSpec env reg groupIdHex (answer, after)
  | tried (snapshot : Conversation) (before after : Registry)
      (answer : Except ChatError Bool)
      (outcome : Except ChatError (Option (List OutboundWelcome)))
      (same : before.stored = (refreshConversationRoster env reg groupIdHex).2.stored)
      (found : before.stored groupIdHex = some snapshot)
      (ran : tryRekeyAndBuildWelcomes env.rekey before snapshot true = (outcome, after))
      (answered : answer = .ok true → ∃ welcomes, outcome = .ok (some welcomes)) :
      ForceSpec env reg groupIdHex (answer, after)

theorem forceRekeyDm_spec (env : ForceEnv) (reg : Registry) (groupIdHex : String) :
    ForceSpec env reg groupIdHex (forceRekeyDm env reg groupIdHex) := by
  unfold forceRekeyDm
  generalize looked : (refreshConversationRoster env reg groupIdHex).2.get groupIdHex = got
  have spec := looked ▸ get_spec _ groupIdHex
  cases spec with
  | failed | absent => exact .idle _ _ (by simp) rfl
  | found snapshot before known stored cached same =>
    have found := stored_of_cached cached
    dsimp only
    split
    · exact .idle _ _ (by simp) same
    · split
      · exact .idle _ _ (by simp) same
      · split
        · rename_i ran
          exact .tried snapshot before _ _ _ same found ran (by simp)
        · rename_i ran
          exact .tried snapshot before _ _ _ same found ran (by simp)
        · rename_i ran
          exact .tried snapshot before _ _ _ same found ran (fun _ => ⟨_, rfl⟩)

theorem Holds.tryRekey_forced
    (held : Holds reg groupIdHex Rooted) (env : RekeyEnv) (snapshot : Conversation) :
    Holds (tryRekeyAndBuildWelcomes env reg snapshot true).2 groupIdHex Rooted := by
  rcases ran : tryRekeyAndBuildWelcomes env reg snapshot true with ⟨result, after⟩
  by_cases returned : ∃ welcomes, result = .ok (some welcomes)
  · obtain ⟨welcomes, rfl⟩ := returned
    obtain ⟨_, conv, stored, _, unmoved, written⟩ := tryRekey_committed ran
    refine holds_update written (fun _ => held) ?_
    rintro same _ ⟨⟩
    exact rooted_commit env (.inl unmoved)
  · have kept := tryRekey_uncommitted ran (not_exists.mp returned)
    exact held.of_stored (congrFun kept _)

theorem Holds.forceRekeyDm (held : Holds reg groupIdHex Rooted) (env : ForceEnv) (target : String) :
    Holds (forceRekeyDm env reg target).2 groupIdHex Rooted := by
  have refreshed := held.refreshConversationRoster (fun _ _ rooted => rooted) env target
  generalize forced : Chat.forceRekeyDm env reg target = result
  have spec := forced ▸ forceRekeyDm_spec env reg target
  cases spec with
  | idle answer after unforced same => exact refreshed.of_stored (congrFun same _)
  | tried snapshot before after answer outcome same found ran answered =>
    have kept := (refreshed.of_stored (congrFun same _)).tryRekey_forced env.rekey snapshot
    rw [ran] at kept
    exact kept

/-- A step after which the epoch is the one of the last progress: progress that is written, or a
forced re-key that commits. -/
inductive Rebases (groupIdHex : String) (reg : Registry) : Event → Prop
  | progress (now : Nat) : Rebases groupIdHex reg (.progress groupIdHex now none)
  | force (env : ForceEnv) (filed : Holds reg groupIdHex (·.groupIdHex = groupIdHex))
      (committed : (forceRekeyDm env reg groupIdHex).1 = .ok true) :
      Rebases groupIdHex reg (.force env groupIdHex)

theorem Rebases.rooted
    (rebases : Rebases groupIdHex reg event) : Holds (step reg event) groupIdHex Rooted := by
  cases rebases with
  | progress now =>
    refine holds_update (reg.stored_mutateInPlace ..) (fun other => absurd rfl other) ?_
    intro _ conv' changed
    obtain ⟨conv, _, rfl⟩ := Option.map_eq_some_iff.mp changed
    exact Nat.le_refl _
  | force env filed committed =>
    have refiled := filed.refreshConversationRoster (fun _ _ named => named) env groupIdHex
    change Holds (forceRekeyDm env reg groupIdHex).2 groupIdHex Rooted
    generalize forced : forceRekeyDm env reg groupIdHex = result at committed ⊢
    have spec := forced ▸ forceRekeyDm_spec env reg groupIdHex
    cases spec with
    | idle answer after unforced same => exact absurd committed unforced
    | tried snapshot before after answer outcome same found ran answered =>
      obtain ⟨welcomes, rfl⟩ := answered committed
      have named : snapshot.groupIdHex = groupIdHex :=
        refiled.of_stored (congrFun same _) snapshot found
      obtain ⟨_, conv, _, _, unmoved, written⟩ := tryRekey_committed ran
      rw [named] at written
      refine holds_update written (fun other => absurd rfl other) ?_
      intro _ conv' sealed
      cases sealed
      exact rooted_commit env.rekey (.inl unmoved)

/-- No timed re-key of the group commits, and no Welcome for it is folded in or installed. -/
def Quiet (groupIdHex : String) (reg : Registry) : Event → Prop
  | .sweep envFor => (step reg (.sweep envFor)).stored groupIdHex = reg.stored groupIdHex
  | .welcome arrival => (step reg (.welcome arrival)).stored groupIdHex = reg.stored groupIdHex
  | _ => True

theorem Holds.step (held : Holds reg groupIdHex Rooted) (quiet : Quiet groupIdHex reg event) :
    Holds (step reg event) groupIdHex Rooted := by
  cases event with
  | inbound target frameEpoch now fault =>
    exact held.inbound (fun _ _ _ rooted => rooted) target frameEpoch now fault
  | progress target now fault =>
    exact held.mutateInPlace (fun _ _ => Nat.le_refl _) target fault
  | sweep | welcome => exact held.of_stored quiet
  | force env target => exact held.forceRekeyDm env target

/-- Since the last point where the epoch was the one of the last progress, the history is quiet. -/
inductive Settled (groupIdHex : String) (reg : Registry) : List Event → Prop
  | start (rooted : Holds reg groupIdHex Rooted) : Settled groupIdHex reg []
  | rebased (early : List Event) (event : Event)
      (rebases : Rebases groupIdHex (run step reg early) event) :
      Settled groupIdHex reg (early ++ [event])
  | quiet (early : List Event) (event : Event) (settled : Settled groupIdHex reg early)
      (quiet : Quiet groupIdHex (run step reg early) event) :
      Settled groupIdHex reg (early ++ [event])

theorem Settled.rooted (settled : Settled groupIdHex reg history) :
    Holds (run step reg history) groupIdHex Rooted := by
  induction settled with
  | start rooted => exact rooted
  | rebased early event rebases =>
    rw [run_append]
    exact rebases.rooted
  | quiet early event settled quiet ih =>
    rw [run_append]
    exact ih.step quiet

/-! A conversation that has received a frame stays cached. -/

theorem warms_get (reg : Registry) (groupIdHex : String) :
    reg.Warms (reg.get groupIdHex).2 := by
  unfold Registry.get
  split
  · exact reg.warms_refl
  · split
    · exact reg.warms_refl
    · exact reg.warms_refl
    · exact warms_of_update (reg.cell_enter ..) (Cell.warms_fill _ _)

theorem warms_trans {first second third : Registry} (start : first.Warms second)
    (rest : second.Warms third) : first.Warms third := by
  intro groupIdHex cold
  have same := rest groupIdHex cold
  rw [same] at cold ⊢
  exact start groupIdHex cold

theorem warms_mutateInPlace (reg : Registry) (groupIdHex : String)
    (fault : Option ChatError) (mutate : Conversation → MutateAction α × Conversation) :
    reg.Warms (reg.mutateInPlace groupIdHex fault mutate).2 :=
  reg.warms_mutateLocked groupIdHex _ fault mutate fun _ _ => rfl

theorem warms_tryRekey (env : RekeyEnv) (reg : Registry) (snapshot : Conversation) (force : Bool) :
    reg.Warms (tryRekeyAndBuildWelcomes env reg snapshot force).2 := by
  unfold tryRekeyAndBuildWelcomes
  split
  · exact reg.warms_refl
  · have warms := warms_mutateInPlace reg snapshot.groupIdHex env.commitFault
      (env.commit force snapshot)
    split <;> simp_all

theorem warms_sweepRounds (rounds : List (RekeyEnv × Conversation)) :
    ∀ (reg : Registry) (rekeyed : Nat), reg.Warms (sweepRounds reg rekeyed rounds).2 := by
  induction rounds with
  | nil =>
    intro reg rekeyed
    exact reg.warms_refl
  | cons round rounds ih =>
    intro reg rekeyed
    unfold sweepRounds
    have warms := warms_tryRekey round.1 reg round.2 false
    split
    · split
      · simp_all
      · rename_i after tried
        rw [tried] at warms
        exact warms_trans warms (ih after rekeyed)
      · rename_i after tried
        rw [tried] at warms
        exact warms_trans warms (ih after (rekeyed + 1))
    · exact ih reg rekeyed

section
variable (env : ForceEnv) (reg : Registry) (groupIdHex : String)

theorem warms_refreshConversationRoster :
    reg.Warms (refreshConversationRoster env reg groupIdHex).2 := by
  have looked := warms_get reg groupIdHex
  unfold refreshConversationRoster
  split
  · simp_all
  · simp_all
  · rename_i conv after got
    rw [got] at looked
    dsimp only
    split
    · exact looked
    · split
      · exact looked
      · apply warms_trans looked
        exact warms_mutateInPlace { after with contacts := _ } groupIdHex _ _

theorem warms_forceRekeyDm :
    reg.Warms (forceRekeyDm env reg groupIdHex).2 := by
  have refreshed := warms_refreshConversationRoster env reg groupIdHex
  have looked := warms_trans refreshed (warms_get _ groupIdHex)
  unfold forceRekeyDm
  split
  · simp_all
  · simp_all
  · rename_i snapshot after got
    rw [got] at looked
    split
    · exact looked
    · split
      · exact looked
      · have tried := warms_trans looked (warms_tryRekey env.rekey after snapshot true)
        split <;> simp_all

end

theorem warms_save (reg : Registry) (conv : Conversation) (fault : Option ChatError) :
    reg.Warms (reg.save conv fault).2 := by
  cases fault with
  | some error => exact reg.warms_refl
  | none =>
    apply warms_of_update (reg.cell_writeBack conv.groupIdHex conv)
    intro cold
    cases cold

theorem warms_install (arrival : Arrival) (reg : Registry) :
    reg.Warms (step reg (.welcome arrival)) := by
  have looked := warms_get reg arrival.groupIdHex
  unfold step installOrRekeyConversation
  dsimp only
  split
  · simp_all
  · rename_i after got
    rw [got] at looked
    have saved := warms_trans looked (warms_save after arrival.conversation
      arrival.env.installFault)
    unfold Arrival.conversation at saved
    split <;> simp_all
  · rename_i conv after got
    rw [got] at looked
    have moved := warms_trans looked (warms_mutateInPlace after arrival.groupIdHex
      arrival.env.installFault (Conversation.resolveRekey arrival.env arrival.envelope
        arrival.payload arrival.senderAgentHex))
    split <;> simp_all

theorem warms_step (reg : Registry) (event : Event) : reg.Warms (step reg event) := by
  cases event with
  | inbound groupIdHex frameEpoch now fault | progress groupIdHex now fault =>
    exact warms_mutateInPlace reg groupIdHex fault _
  | sweep envFor => exact warms_sweepRounds _ reg 0
  | force env groupIdHex => exact warms_forceRekeyDm env reg groupIdHex
  | welcome arrival => exact warms_install arrival reg

theorem cached_step (cached : reg.byGroupId.lookup groupIdHex ≠ none) (event : Event) :
    (step reg event).byGroupId.lookup groupIdHex ≠ none := by
  intro cold
  have same := warms_step reg event groupIdHex cold
  exact cached ((congrArg Cell.cached same).symm.trans cold)

theorem cached_inbound (stored : reg.stored groupIdHex ≠ none) (frameEpoch : Option Nat) (now : Nat)
    (fault : Option ChatError) :
    (step reg (.inbound groupIdHex frameEpoch now fault)).byGroupId.lookup groupIdHex ≠ none := by
  rw [stored_eq_base] at stored
  have moved : (step reg (.inbound groupIdHex frameEpoch now fault)).cell = _ :=
    cell_mutateLocked reg groupIdHex _ _ _ fun _ _ => rfl
  change ((step reg (.inbound groupIdHex frameEpoch now fault)).cell groupIdHex).cached ≠ none
  rw [moved]
  unfold Cell.mutate
  split
  · rename_i nothing
    exact absurd nothing stored
  · split <;> simp [Cell.fill]

/-- A frame that could not be decrypted has arrived for a conversation that exists. -/
inductive Heard (groupIdHex : String) (reg : Registry) : List Event → Prop
  | frame (early late : List Event) (frameEpoch : Option Nat) (now : Nat)
      (fault : Option ChatError) (stored : (run step reg early).stored groupIdHex ≠ none) :
      Heard groupIdHex reg (early ++ .inbound groupIdHex frameEpoch now fault :: late)

theorem Heard.cached (heard : Heard groupIdHex reg history) :
    (run step reg history).byGroupId.lookup groupIdHex ≠ none := by
  obtain ⟨early, late, frameEpoch, now, fault, stored⟩ := heard
  rw [run_append]
  exact run_keeps (fun reg : Registry => reg.byGroupId.lookup groupIdHex ≠ none)
    (fun _ event cached => cached_step cached event) late
    (cached_inbound stored frameEpoch now fault)

/-- Frames that meet the clocks of the watchdog make it trip again, if the epoch has stayed at the
one of the last progress. -/
theorem watchdog_trips_again (groupIdHex : String) (reg : Registry) (history : List Event)
    (settled : Settled groupIdHex reg history) (heard : Heard groupIdHex reg history)
    (conv : Conversation) (stored : (run step reg history).stored groupIdHex = some conv)
    (now : Nat) (stalled : Stalled conv now) :
    ∃ signals,
      (groupIdHex, signals) ∈ wedgeSnapshot (run step reg history) now wedgeRecentWindowMs ∧
      wedgeShouldTrip signals now wedgeThresholdMs = true ∧
      groupIdHex ∈ groupsToRecover now wedgeThresholdMs
        (wedgeSnapshot (run step reg history) now wedgeRecentWindowMs) := by
  obtain ⟨found, cached⟩ := Option.ne_none_iff_exists'.mp heard.cached
  have same : found = conv :=
    Option.some_injective _ ((stored_of_cached cached).symm.trans stored)
  subst same
  have rooted := settled.rooted found stored
  exact ⟨_, mem_wedgeSnapshot cached now wedgeRecentWindowMs,
    (wedgeShouldTrip_iff found now).mpr ⟨stalled, rooted⟩,
    mem_groupsToRecover.mpr ⟨found, cached, stalled, rooted⟩⟩

/-! Bob's group `g`, and a direct conversation of an admin. -/

/-- The conversation is installed and makes progress once. A forced re-key of it fails, because
the group id is not one that a Welcome can name. -/
def failedRekey : List Event :=
  [.welcome (bobWelcome 1 "k1"), .progress "g" 1 none, .inbound "g" (some 2) 70000 none,
    .force ⟨(wedgedSide lowAgent highAgent 0 0 1).env, fun contacts _ => contacts, none⟩ "g",
    .inbound "g" (some 2) 100000 none]

def failedRekeyConversation : Conversation :=
  { (bobWelcome 1 "k1").conversation with
    wedgeLastProgressMs := 1
    wedgeLastInboundMs := 100000
    wedgeProgressEpoch := 1
    wedgeMaxStaleEpoch := 2 }

theorem failed_rekey_trips_again :
    ∃ signals,
      ("g", signals) ∈ wedgeSnapshot (run step emptyRegistry failedRekey) 100000
        wedgeRecentWindowMs ∧
      wedgeShouldTrip signals 100000 wedgeThresholdMs = true ∧
      "g" ∈ groupsToRecover 100000 wedgeThresholdMs
        (wedgeSnapshot (run step emptyRegistry failedRekey) 100000 wedgeRecentWindowMs) := by
  have progressed : Settled "g" emptyRegistry
      ([.welcome (bobWelcome 1 "k1")] ++ [.progress "g" 1 none]) :=
    .rebased _ _ (.progress 1)
  have settled : Settled "g" emptyRegistry failedRekey := by
    apply Settled.quiet (failedRekey.take 4)
    · apply Settled.quiet (failedRekey.take 3)
      · exact .quiet _ (.inbound "g" (some 2) 70000 none) progressed trivial
      · trivial
    · trivial
  have known : (run step emptyRegistry (failedRekey.take 4)).stored "g" ≠ none := by
    decide +kernel
  have stored : (run step emptyRegistry failedRekey).stored "g" = some failedRekeyConversation := by
    decide +kernel
  exact watchdog_trips_again "g" emptyRegistry failedRekey settled
    (.frame (failedRekey.take 4) [] _ _ _ known) _ stored 100000
    ⟨by decide, by decide, by decide⟩

/-! An epoch that has moved on without progress. -/

def Exempt (reg : Registry) (groupIdHex : String) : Prop :=
  ∀ (traffic : List (Option Nat × Nat × Option ChatError)) (now : Nat),
    groupIdHex ∉ groupsToRecover now wedgeThresholdMs
      (wedgeSnapshot (run step reg (traffic.map fun frame =>
        .inbound groupIdHex frame.1 frame.2.1 frame.2.2)) now wedgeRecentWindowMs)

theorem unrooted_traffic (traffic : List (Option Nat × Nat × Option ChatError)) :
    ∀ reg, Holds reg groupIdHex (¬Rooted ·) →
      Holds (run step reg (traffic.map fun frame =>
        .inbound groupIdHex frame.1 frame.2.1 frame.2.2)) groupIdHex (¬Rooted ·) := by
  induction traffic with
  | nil =>
    intro reg moved
    exact moved
  | cons frame traffic ih =>
    intro reg moved
    apply ih
    exact moved.inbound (fun _ _ _ unrooted => unrooted) groupIdHex frame.1 frame.2.1 frame.2.2

theorem exempt_of_moved (moved : Holds reg groupIdHex (¬Rooted ·)) : Exempt reg groupIdHex := by
  intro traffic now recovered
  obtain ⟨conv, cached, _, rooted⟩ := mem_groupsToRecover.mp recovered
  exact unrooted_traffic traffic reg moved conv (stored_of_cached cached) rooted

theorem stalled_inbound (stored : reg.stored groupIdHex = some conv) (frameEpoch : Option Nat)
    (late : conv.wedgeLastProgressMs + wedgeThresholdMs ≤ now) :
    ∃ after, (step reg (.inbound groupIdHex frameEpoch now none)).stored groupIdHex = some after ∧
      Stalled after now := by
  refine ⟨conv.wedgeInbound now frameEpoch, ?_, ?_⟩
  · unfold step noteWedgeInbound
    rw [stored_mutateInPlace, update_self, stored]
    rfl
  · have threshold : 0 < wedgeThresholdMs := by decide
    have window : now - now ≤ wedgeRecentWindowMs := by omega
    exact ⟨by simp only [Conversation.wedgeInbound]; omega, window,
      by simp only [Conversation.wedgeInbound]; omega⟩

theorem advanceEpochTo_pos (now sweepNow floor : Nat) (newKeyB64 : String) (conv : Conversation) :
    0 < (conv.advanceEpochTo now sweepNow floor newKeyB64).currentEpoch := by
  simp only [Conversation.advanceEpochTo, Conversation.sweepPriorKeys, addEpoch, maxEpoch]
  omega

def adminDm : Conversation := { wedgedDm lowAgent highAgent 0 0 with ownRole := .admin }

def adminEnv : RekeyEnv :=
  let due := defaultAutoRekeyIntervalMs + 1
  { (wedgedSide lowAgent highAgent 0 0 1).env with
    pickClock := due, buildClock := due, dueClock := due, advanceClock := due, sweepClock := due }

theorem adminDm_swept :
    ∃ conv, (step (.ofConversation adminDm) (.sweep fun _ => adminEnv)).stored (hexId bobGroup) =
        some conv ∧ conv.wedgeLastProgressMs = 0 ∧ ¬Rooted conv := by
  have distinct : hexId highAgent ≠ hexId lowAgent := RekeyConvergence.lowAgent_lt_highAgent.ne'
  have built := RekeyConvergence.buildWelcomes_dm lowAgent highAgent adminEnv
    (adminEnv.advance adminEnv.buildClock adminEnv.buildClock false adminDm adminDm) distinct
    rfl rfl rfl
  have cached : (ofConversation adminDm).byGroupId.lookup adminDm.groupIdHex =
      some adminDm := AList.lookup_insert _
  obtain ⟨after, ran⟩ := tryRekey_commits built cached rfl rfl
  obtain ⟨_, conv, started, _, _, written⟩ := tryRekey_committed ran
  have same : conv = adminDm :=
    Option.some_injective _ (started.symm.trans (stored_of_cached cached))
  subst same
  have swept : sweepAutoRekey (fun _ => adminEnv) (.ofConversation adminDm) = (.ok 1, after) := by
    have rounds : sweepAutoRekey (fun _ => adminEnv) (.ofConversation adminDm) =
        sweepRounds (.ofConversation adminDm) 0 [(adminEnv, adminDm)] := rfl
    rw [rounds, sweepRounds, ran]
    rfl
  have commits : (adminEnv.commit false adminDm adminDm).2 =
      adminEnv.advance adminEnv.advanceClock adminEnv.sweepClock false adminDm adminDm := by
    rfl
  rw [commits] at written
  refine ⟨adminEnv.advance adminEnv.advanceClock adminEnv.sweepClock false adminDm adminDm, ?_,
    rfl, ?_⟩
  · have stepped : ∀ (reg : Registry) envFor,
        step reg (.sweep envFor) = (sweepAutoRekey envFor reg).2 := fun _ _ => rfl
    have named : adminDm.groupIdHex = hexId bobGroup := rfl
    rw [stepped, swept, written, named, update_self]
  · have moved := advanceEpochTo_pos adminEnv.advanceClock adminEnv.sweepClock
      (adminDm.targetFloor false adminEnv.client.agentIdHex) adminEnv.newKeyB64 adminDm
    exact Nat.not_le_of_lt moved

/-- A Welcome of a later epoch, or a timed re-key that no peer answers, moves the epoch without
progress. From then on no traffic makes the watchdog trip. -/
theorem moved_epoch_exempts :
    let welcomed := run step emptyRegistry
      [.welcome (bobWelcome 1 "k1"), .progress "g" 1 none, .welcome (bobWelcome 2 "k2")]
    let swept := step (.ofConversation adminDm) (.sweep fun _ => adminEnv)
    ((∃ conv, (step welcomed (.inbound "g" (some 3) 100000 none)).stored "g" = some conv ∧
        Stalled conv 100000) ∧ Exempt welcomed "g") ∧
      (∃ conv, (step swept (.inbound (hexId bobGroup) (some 0) 100000 none)).stored
          (hexId bobGroup) = some conv ∧ Stalled conv 100000) ∧
        Exempt swept (hexId bobGroup) := by
  intro welcomed swept
  constructor
  · have stored : welcomed.stored "g" = some
        { (bobWelcome 1 "k1").conversation.rekey 0 0 (bobWelcome 2 "k2").payload with
          wedgeLastProgressMs := 1, wedgeLastInboundMs := 1, wedgeProgressEpoch := 1 } := by
      decide +kernel
    refine ⟨stalled_inbound stored _ (by decide), exempt_of_moved ?_⟩
    intro conv found
    cases found
    decide
  · obtain ⟨conv, stored, progress, unrooted⟩ := adminDm_swept
    refine ⟨stalled_inbound stored _ (by rw [progress]; decide), exempt_of_moved ?_⟩
    intro other found
    cases stored.symm.trans found
    exact unrooted

end Fetchit.Chat.Watchdog
