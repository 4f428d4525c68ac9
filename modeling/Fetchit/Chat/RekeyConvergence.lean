import Mathlib.Order.Lattice
import Fetchit.Chat.Rekey

/-! Two devices of a direct conversation that force a re-key at the same time. Each lands on an
epoch of its own choice with its own key, and the Welcome of the one that landed higher replaces
the key of the other. -/
namespace Fetchit.Chat.RekeyConvergence
open Lib Proto.Identity

structure Side where
  env : RekeyEnv
  registry : Registry
  conv : Conversation

namespace Side

def agent (side : Side) : String := side.env.client.agentIdHex

def epoch (side : Side) : Nat := side.conv.currentEpoch

def landing (side : Side) : Nat :=
  addEpoch (max (side.conv.targetFloor true side.agent) side.epoch) 1

/-- The conversation lists the device and its peer, and nobody else. -/
structure Pairs (side : Side) (peer groupIdHex : String) : Prop where
  stored : side.registry.stored groupIdHex = some side.conv
  grouped : side.conv.groupIdHex = groupIdHex
  lists : hasDevice side.conv.members peer = true
  only : ∀ device ∈ allDevices side.conv.members,
    device.agentIdHex = side.agent ∨ device.agentIdHex = peer

/-- A device that is behind has seen a frame at the epoch of the other one, and a device that is not
has seen none ahead of its own epoch. -/
structure Marked (side other : Side) : Prop where
  behind : side.epoch < other.epoch → side.conv.wedgeMaxStaleEpoch = other.epoch
  level : other.epoch ≤ side.epoch → side.conv.wedgeMaxStaleEpoch ≤ side.epoch

end Side

/-- The devices of a pair fail to part in one case: the one behind has the higher agent id and is
behind by exactly one more than the largest jump. -/
def Collides (behind ahead : Side) : Prop :=
  ahead.epoch = behind.epoch + maxForcedEpochJump + 1 ∧ ahead.agent < behind.agent

section
variable {side other : Side} {groupIdHex : String}

section
variable (pairs : side.Pairs other.agent groupIdHex) (distinct : side.agent ≠ other.agent)
include pairs distinct

theorem tiebreak_eq :
    side.conv.tiebreak true side.agent = if other.agent < side.agent then 1 else 0 := by
  have highest : side.conv.highestPeer side.agent = some other.agent := by
    unfold Conversation.highestPeer
    have members : ∀ peer ∈ ((allDevices side.conv.members).map (·.agentIdHex)).filter
        (· != side.agent), peer = other.agent := by
      intro peer mem
      obtain ⟨listed, foreign⟩ := List.mem_filter.mp mem
      obtain ⟨device, there, rfl⟩ := List.mem_map.mp listed
      rcases pairs.only device there with own | peer
      · simp [own] at foreign
      · exact peer
    rw [List.max?_eq_some_iff]
    constructor
    · obtain ⟨device, there, named⟩ := List.any_eq_true.mp pairs.lists
      rw [beq_iff_eq] at named
      refine List.mem_filter.mpr ⟨List.mem_map.mpr ⟨device, there, named⟩, ?_⟩
      simpa using distinct.symm
    · intro peer mem
      exact (members peer mem).le
  simp [Conversation.tiebreak, highest]

theorem landing_eq (marked : side.Marked other) (below : side.epoch < maxEpoch - maxForcedEpochJump)
    (belowOther : other.epoch < maxEpoch - maxForcedEpochJump) :
    side.landing =
      (if side.epoch < other.epoch then min other.epoch (side.epoch + maxForcedEpochJump)
        else side.epoch) + (if other.agent < side.agent then 1 else 0) + 1 := by
  have small : (if other.agent < side.agent then 1 else 0) ≤ 1 := by split <;> omega
  simp only [Side.landing, Conversation.targetFloor, Conversation.forcedFloor,
    tiebreak_eq pairs distinct, if_true]
  by_cases lower : side.epoch < other.epoch
  · rw [if_pos lower, marked.behind lower]
    simp only [Side.epoch, maxEpoch, maxForcedEpochJump, addEpoch] at *
    omega
  · have low := marked.level (Nat.le_of_not_lt lower)
    rw [if_neg lower]
    simp only [Side.epoch, maxEpoch, maxForcedEpochJump, addEpoch] at *
    omega

end

structure Landed (side : Side) (groupIdHex : String) (after : Registry)
    (welcomes : List OutboundWelcome) : Prop where
  stored : ∃ conv, after.stored groupIdHex = some conv ∧ conv.currentEpoch = side.landing ∧
    conv.currentKeyB64 = side.env.newKeyB64 ∧ conv.members = side.conv.members
  announced : ∀ welcome ∈ welcomes, welcome.envelope.epoch = side.landing ∧
    welcome.payload.epoch = side.landing ∧ welcome.payload.currentKeyB64 = side.env.newKeyB64

theorem landed_of_tryRekey (pairs : side.Pairs peer groupIdHex)
    (ran : tryRekeyAndBuildWelcomes side.env side.registry side.conv true =
      (.ok (some welcomes), after)) : Landed side groupIdHex after welcomes := by
  obtain ⟨built, conv, stored, _, _, moved⟩ := tryRekey_committed ran
  rw [pairs.grouped, pairs.stored] at stored
  cases stored
  constructor
  · refine ⟨(side.env.commit true side.conv side.conv).2, ?_, ?_⟩
    · rw [moved, pairs.grouped, Function.update_self]
    · simp only [RekeyEnv.commit, Bool.true_or, Bool.true_and, beq_self_eq_true, if_true]
      exact ⟨rfl, rfl, rfl⟩
  · intro welcome mem
    rw [RekeyEnv.buildWelcomes_eq_ok built] at mem
    obtain ⟨device, _, rfl⟩ := List.mem_map.mp mem
    exact ⟨rfl, rfl, rfl⟩

theorem received (landed : Landed side groupIdHex after sent)
    (otherLanded : Landed other groupIdHex otherAfter welcomes) (mem : welcome ∈ welcomes)
    (lists : hasDevice side.conv.members other.agent = true) (env : DispatchEnv)
    (seals : env.installFault = none) (trustState : TrustState) :
    ∃ conv, (installOrRekeyConversation env after welcome.envelope welcome.payload other.agent
        groupIdHex trustState).2.stored groupIdHex = some conv ∧
      conv.currentEpoch = max side.landing other.landing ∧
      conv.currentKeyB64 =
        if side.landing < other.landing then other.env.newKeyB64 else side.env.newKeyB64 := by
  obtain ⟨conv, stored, epoch, key, members⟩ := landed.stored
  obtain ⟨sealedAt, payloadAt, payloadKey⟩ := otherLanded.announced welcome mem
  by_cases higher : side.landing < other.landing
  · have writes : WelcomeWrites env after welcome.envelope welcome.payload other.agent groupIdHex
        trustState groupIdHex (conv.rekey env.installClock env.sweepClock welcome.payload) := by
      refine .rekey seals conv stored ?_ ?_
      · omega
      · rw [members]
        exact lists
    refine ⟨conv.rekey env.installClock env.sweepClock welcome.payload, ?_, ?_, ?_⟩
    · rw [writes.stored, Function.update_self]
    · rw [max_eq_right (by omega)]
      exact payloadAt
    · rw [if_pos higher]
      exact payloadKey
  · have idle : ∀ group written, ¬WelcomeWrites env after welcome.envelope welcome.payload
        other.agent groupIdHex trustState group written :=
      not_writes_of_stored stored (by omega)
    refine ⟨conv, ?_, ?_, ?_⟩
    · rcases installOrRekeyConversation_stored env after welcome.envelope welcome.payload
        other.agent groupIdHex trustState with ⟨group, written, writes, _⟩ | ⟨_, same⟩
      · exact absurd writes (idle group written)
      · rw [same, stored]
    · rw [max_eq_left (by omega)]
      exact epoch
    · rw [if_neg higher]
      exact key

theorem landing_eq_iff (pairs : side.Pairs other.agent groupIdHex)
    (otherPairs : other.Pairs side.agent groupIdHex) (distinct : side.agent ≠ other.agent)
    (marked : side.Marked other) (otherMarked : other.Marked side)
    (below : side.epoch < maxEpoch - maxForcedEpochJump)
    (belowOther : other.epoch < maxEpoch - maxForcedEpochJump) :
    side.landing = other.landing ↔ Collides side other ∨ Collides other side := by
  rw [landing_eq pairs distinct marked below belowOther,
    landing_eq otherPairs distinct.symm otherMarked belowOther below]
  unfold Collides
  rcases lt_or_gt_of_ne distinct with lower | higher
  · simp only [lower, lt_asymm lower, if_true, if_false, and_true, and_false, false_or]
    split <;> split <;> omega
  · simp only [higher, lt_asymm higher, if_true, if_false, and_true, and_false, or_false]
    split <;> split <;> omega

end

theorem newKeyB64_injective {first second : RekeyEnv} (distinct : first.newKey ≠ second.newKey) :
    first.newKeyB64 ≠ second.newKeyB64 := by
  intro same
  apply distinct
  have decoded := congrArg Base64.decode same
  simp only [RekeyEnv.newKeyB64, Base64.decode_encode, Option.some.injEq] at decoded
  exact Vector.toList_inj.mp decoded

/-- Two forced re-keys of a pair leave both devices at one epoch. They leave them with one key, the
new key of exactly one of them, unless the two collide. -/
theorem forced_rekeys_converge_iff (first second : Side) (groupIdHex : String)
    (firstPairs : first.Pairs second.agent groupIdHex)
    (secondPairs : second.Pairs first.agent groupIdHex) (distinct : first.agent ≠ second.agent)
    (firstBelow : first.epoch < maxEpoch - maxForcedEpochJump)
    (secondBelow : second.epoch < maxEpoch - maxForcedEpochJump) (firstMarked : first.Marked second)
    (secondMarked : second.Marked first) (fresh : first.env.newKey ≠ second.env.newKey)
    (firstWelcomes secondWelcomes : List OutboundWelcome) (firstAfter secondAfter : Registry)
    (firstRan : tryRekeyAndBuildWelcomes first.env first.registry first.conv true =
      (.ok (some firstWelcomes), firstAfter))
    (secondRan : tryRekeyAndBuildWelcomes second.env second.registry second.conv true =
      (.ok (some secondWelcomes), secondAfter)) (toSecond toFirst : OutboundWelcome)
    (sentFirst : toSecond ∈ firstWelcomes) (sentSecond : toFirst ∈ secondWelcomes)
    (firstEnv secondEnv : DispatchEnv) (firstSeals : firstEnv.installFault = none)
    (secondSeals : secondEnv.installFault = none) (firstTrust secondTrust : TrustState) :
    ∃ firstConv secondConv,
      (installOrRekeyConversation firstEnv firstAfter toFirst.envelope toFirst.payload
        second.agent groupIdHex firstTrust).2.stored groupIdHex = some firstConv ∧
      (installOrRekeyConversation secondEnv secondAfter toSecond.envelope toSecond.payload
        first.agent groupIdHex secondTrust).2.stored groupIdHex = some secondConv ∧
      firstConv.currentEpoch = secondConv.currentEpoch ∧
      (firstConv.currentKeyB64 = secondConv.currentKeyB64 ∧
          Xor (firstConv.currentKeyB64 = first.env.newKeyB64)
            (firstConv.currentKeyB64 = second.env.newKeyB64) ↔
        ¬Collides first second ∧ ¬Collides second first) := by
  have firstLanded := landed_of_tryRekey firstPairs firstRan
  have secondLanded := landed_of_tryRekey secondPairs secondRan
  obtain ⟨firstConv, firstStored, firstEpoch, firstKey⟩ :=
    received firstLanded secondLanded sentSecond firstPairs.lists firstEnv firstSeals firstTrust
  obtain ⟨secondConv, secondStored, secondEpoch, secondKey⟩ :=
    received secondLanded firstLanded sentFirst secondPairs.lists secondEnv secondSeals secondTrust
  have keys := newKeyB64_injective fresh
  refine ⟨firstConv, secondConv, firstStored, secondStored, ?_, ?_⟩
  · rw [firstEpoch, secondEpoch, max_comm]
  · rw [← not_or, ← landing_eq_iff firstPairs secondPairs distinct firstMarked secondMarked
      firstBelow secondBelow, firstKey, secondKey]
    constructor
    · rintro ⟨same, _⟩ level
      simp only [level, lt_irrefl, if_false] at same
      exact keys same
    · intro parted
      rcases Nat.lt_or_gt_of_ne parted with lower | higher
      · rw [if_pos lower, if_neg (by omega)]
        exact ⟨rfl, .inr ⟨rfl, keys.symm⟩⟩
      · rw [if_neg (by omega), if_pos higher]
        exact ⟨rfl, .inl ⟨rfl, keys⟩⟩

/-! Two devices with one active device record each. -/

def lowAgent : AgentId := Vector.replicate 32 0x0a

def highAgent : AgentId := Vector.replicate 32 0x0b

theorem lowAgent_lt_highAgent : hexId lowAgent < hexId highAgent := by
  decide +kernel

def dmDevice (agentId : AgentId) : MemberDevice :=
  ⟨hexId agentId, Base64.encode (List.replicate kemPublicKeyLen 0), none, 0, .active⟩

def dmClient (self : AgentId) : SendEnv := ⟨hexId self, "", id, id, fun _ => none⟩

def wedgedDm (self peer : AgentId) (epoch mark : Nat) : Conversation :=
  { Conversation.fromWelcome 0
      ⟨hexId bobGroup, "", epoch, [⟨none, [dmDevice self], 0⟩, ⟨none, [dmDevice peer], 0⟩], none⟩
      .confirmed with
    wedgeMaxStaleEpoch := mark }

def wedgedSide (self peer : AgentId) (epoch mark : Nat) (keyByte : UInt8) : Side where
  conv := wedgedDm self peer epoch mark
  registry := .ofConversation (wedgedDm self peer epoch mark)
  env :=
    { client := dmClient self
      agentId := self
      named := rfl
      machineId := []
      newKey := Vector.replicate aeadKeyLen keyByte
      sealedFor := fun _ => ⟨0, [], [], [], []⟩
      pickClock := 0
      buildClock := 0
      dueClock := 0
      advanceClock := 0
      sweepClock := 0
      commitFault := none }

section
variable (self peer : AgentId) (epoch mark : Nat) (keyByte : UInt8)

theorem wedgedSide_pairs :
    (wedgedSide self peer epoch mark keyByte).Pairs (hexId peer) (hexId bobGroup) where
  stored := by
    simp only [wedgedSide, Registry.stored_ofConversation]
    exact Function.update_self ..
  grouped := rfl
  lists := by simp [wedgedSide, wedgedDm, hasDevice, allDevices, Conversation.fromWelcome, dmDevice]
  only := by
    intro device mem
    simp only [wedgedSide, wedgedDm, allDevices, Conversation.fromWelcome, List.flatMap_cons,
      List.flatMap_nil, List.append_nil, List.mem_append, List.mem_singleton] at mem
    rcases mem with rfl | rfl
    · exact .inl rfl
    · exact .inr rfl

theorem buildWelcomes_dm (env : RekeyEnv) (conv : Conversation) (distinct : hexId peer ≠ hexId self)
    (client : env.client = dmClient self)
    (grouped : conv.groupIdHex = hexId bobGroup)
    (members : conv.members = [⟨none, [dmDevice self], 0⟩, ⟨none, [dmDevice peer], 0⟩]) :
    env.buildWelcomes conv = .ok [env.welcome conv (dmDevice peer)] := by
  have others : conv.fanoutDevices env.client.agentIdHex = [dmDevice peer] := by
    have listed : conv.fanoutDevices env.client.agentIdHex =
        [dmDevice self, dmDevice peer].filter fun device =>
          device.status == .active && device.agentIdHex != hexId self := by
      rw [Conversation.fanoutDevices, members, client]
      rfl
    rw [listed]
    simp [dmDevice, distinct]
  have outbox : buildWelcomeOutbox env.client conv =
      .ok (conv.fanoutDevices env.client.agentIdHex) := by
    refine buildWelcomeOutbox_ok self bobGroup (congrArg SendEnv.agentIdHex client) grouped ?_
    rw [others]
    intro device mem
    rw [List.mem_singleton.mp mem]
    exact ⟨peer, List.replicate kemPublicKeyLen 0, rfl, rfl, List.length_replicate, by
      rw [client]
      rfl⟩
  rw [RekeyEnv.buildWelcomes, outbox, others]
  rfl

theorem wedgedSide_ran (distinct : hexId peer ≠ hexId self) :
    ∃ (after : Registry) (welcome : OutboundWelcome),
      tryRekeyAndBuildWelcomes (wedgedSide self peer epoch mark keyByte).env
        (wedgedSide self peer epoch mark keyByte).registry
        (wedgedSide self peer epoch mark keyByte).conv true = (.ok (some [welcome]), after) := by
  set side := wedgedSide self peer epoch mark keyByte with hside
  have built := buildWelcomes_dm self peer side.env
    (side.env.advance side.env.buildClock side.env.buildClock true side.conv side.conv) distinct
    rfl rfl rfl
  have cached : side.registry.byGroupId.lookup side.conv.groupIdHex = some side.conv :=
    AList.lookup_insert _
  obtain ⟨after, ran⟩ := tryRekey_commits built cached rfl rfl
  exact ⟨after, _, ran⟩

end

/-- Two epochs apart, the device behind having the lower agent id. -/
theorem near_epochs_converge :
    let first := wedgedSide lowAgent highAgent 3 5 1
    let second := wedgedSide highAgent lowAgent 5 0 2
    ∃ firstAfter toSecond secondAfter toFirst firstConv secondConv,
      tryRekeyAndBuildWelcomes first.env first.registry first.conv true =
        (.ok (some [toSecond]), firstAfter) ∧
      tryRekeyAndBuildWelcomes second.env second.registry second.conv true =
        (.ok (some [toFirst]), secondAfter) ∧
      (installOrRekeyConversation quietEnv firstAfter toFirst.envelope toFirst.payload
        second.agent (hexId bobGroup) .confirmed).2.stored (hexId bobGroup) = some firstConv ∧
      (installOrRekeyConversation quietEnv secondAfter toSecond.envelope toSecond.payload
        first.agent (hexId bobGroup) .confirmed).2.stored (hexId bobGroup) = some secondConv ∧
      firstConv.currentEpoch = secondConv.currentEpoch ∧
      firstConv.currentKeyB64 = secondConv.currentKeyB64 := by
  intro first second
  have distinct : hexId lowAgent ≠ hexId highAgent := lowAgent_lt_highAgent.ne
  obtain ⟨firstAfter, toSecond, firstRan⟩ :=
    wedgedSide_ran lowAgent highAgent 3 5 1 distinct.symm
  obtain ⟨secondAfter, toFirst, secondRan⟩ := wedgedSide_ran highAgent lowAgent 5 0 2 distinct
  have fresh : first.env.newKey ≠ second.env.newKey := by decide
  have firstMarked : first.Marked second := ⟨fun _ => rfl, by decide⟩
  have secondMarked : second.Marked first := ⟨by decide, fun _ => by decide⟩
  obtain ⟨firstConv, secondConv, firstStored, secondStored, epochs, keys⟩ :=
    forced_rekeys_converge_iff first second (hexId bobGroup) (wedgedSide_pairs ..)
      (wedgedSide_pairs ..) distinct (by decide) (by decide) firstMarked secondMarked fresh
      _ _ _ _ firstRan secondRan toSecond toFirst (List.mem_singleton_self _)
      (List.mem_singleton_self _) quietEnv quietEnv rfl rfl .confirmed .confirmed
  have apart : ¬Collides first second ∧ ¬Collides second first :=
    ⟨fun collides => absurd collides.1 (by decide), fun collides => absurd collides.1 (by decide)⟩
  exact ⟨firstAfter, toSecond, secondAfter, toFirst, firstConv, secondConv, firstRan, secondRan,
    firstStored, secondStored, epochs, (keys.mpr apart).1⟩

/-- Behind by one more than the largest jump, and with the higher agent id, a device lands on the
epoch of its peer. Both Welcomes are ignored and both devices keep their own key. -/
theorem clamped_jump_splits_keys :
    let first := wedgedSide highAgent lowAgent 0 17 1
    let second := wedgedSide lowAgent highAgent 17 0 2
    first.Marked second ∧ second.Marked first ∧
    ∃ firstAfter toSecond secondAfter toFirst firstConv secondConv,
      tryRekeyAndBuildWelcomes first.env first.registry first.conv true =
        (.ok (some [toSecond]), firstAfter) ∧
      tryRekeyAndBuildWelcomes second.env second.registry second.conv true =
        (.ok (some [toFirst]), secondAfter) ∧
      (installOrRekeyConversation quietEnv firstAfter toFirst.envelope toFirst.payload
        second.agent (hexId bobGroup) .confirmed).2.stored (hexId bobGroup) = some firstConv ∧
      (installOrRekeyConversation quietEnv secondAfter toSecond.envelope toSecond.payload
        first.agent (hexId bobGroup) .confirmed).2.stored (hexId bobGroup) = some secondConv ∧
      firstConv.currentEpoch = 18 ∧ secondConv.currentEpoch = 18 ∧
      firstConv.currentKeyB64 ≠ secondConv.currentKeyB64 := by
  intro first second
  have distinct : hexId lowAgent ≠ hexId highAgent := lowAgent_lt_highAgent.ne
  have firstMarked : first.Marked second := ⟨fun _ => rfl, by decide⟩
  have secondMarked : second.Marked first := ⟨by decide, fun _ => by decide⟩
  have firstPairs : first.Pairs second.agent (hexId bobGroup) := wedgedSide_pairs ..
  have secondPairs : second.Pairs first.agent (hexId bobGroup) := wedgedSide_pairs ..
  obtain ⟨firstAfter, toSecond, firstRan⟩ := wedgedSide_ran highAgent lowAgent 0 17 1 distinct
  obtain ⟨secondAfter, toFirst, secondRan⟩ :=
    wedgedSide_ran lowAgent highAgent 17 0 2 distinct.symm
  have ordered : second.agent < first.agent := lowAgent_lt_highAgent
  have firstLands : first.landing = 18 := by
    rw [landing_eq firstPairs distinct.symm firstMarked (by decide) (by decide), if_pos ordered]
    rfl
  have secondLands : second.landing = 18 := by
    rw [landing_eq secondPairs distinct secondMarked (by decide) (by decide),
      if_neg (lt_asymm ordered)]
    rfl
  have firstLanded := landed_of_tryRekey firstPairs firstRan
  have secondLanded := landed_of_tryRekey secondPairs secondRan
  obtain ⟨firstConv, firstStored, firstEpoch, firstKey⟩ := received firstLanded secondLanded
    (List.mem_singleton_self _) firstPairs.lists quietEnv rfl .confirmed
  obtain ⟨secondConv, secondStored, secondEpoch, secondKey⟩ := received secondLanded firstLanded
    (List.mem_singleton_self _) secondPairs.lists quietEnv rfl .confirmed
  rw [firstLands, secondLands] at firstEpoch firstKey secondEpoch secondKey
  refine ⟨firstMarked, secondMarked, firstAfter, toSecond, secondAfter, toFirst, firstConv,
    secondConv, firstRan, secondRan, firstStored, secondStored, firstEpoch, secondEpoch, ?_⟩
  rw [firstKey, secondKey]
  exact newKeyB64_injective (by decide)

end Fetchit.Chat.RekeyConvergence
