import Fetchit.Chat.Inbound

/-! Which stored conversations an accepted Welcome can change. A re-key is keyed by the group
id of the envelope, a fresh install by the group id that the payload names. -/
namespace Fetchit.Chat
open Lib Proto.Identity Proto.Envelope Function

/-- Only the named group changes, and a conversation that existed changes only for a member
whose Welcome is ahead of it. -/
def Confined (before after : Registry) (groupIdHex senderAgentHex : String) (epoch : Nat) : Prop :=
  (∀ group, group ≠ groupIdHex → after.stored group = before.stored group) ∧
    ∀ group conv, before.stored group = some conv → after.stored group ≠ some conv →
      hasDevice conv.members senderAgentHex = true ∧ conv.currentEpoch < epoch

theorem confined_of_same (h : after.stored = before.stored)
    (groupIdHex senderAgentHex : String) (epoch : Nat) :
    Confined before after groupIdHex senderAgentHex epoch := by
  refine ⟨fun group _ => by rw [h], ?_⟩
  intro group conv stored changed
  rw [h] at changed
  exact absurd stored changed

theorem confined_update_iff {target groupIdHex senderAgentHex : String} {epoch : Nat}
    {written : Conversation} (h : after.stored = update before.stored target (some written))
    (changes : before.stored target ≠ some written) :
    Confined before after groupIdHex senderAgentHex epoch ↔
      target = groupIdHex ∧ ∀ conv, before.stored target = some conv →
        hasDevice conv.members senderAgentHex = true ∧ conv.currentEpoch < epoch := by
  constructor
  · intro confined
    have written_at : after.stored target = some written := by simp [h]
    refine ⟨?_, ?_⟩
    · by_contra other
      apply changes
      rw [← written_at]
      exact (confined.1 target other).symm
    · intro conv stored
      apply confined.2 target conv stored
      intro same
      rw [written_at, ← stored] at same
      exact changes same.symm
  · rintro ⟨rfl, allowed⟩
    refine ⟨?_, ?_⟩
    · intro group other
      rw [h, update_of_ne other]
    · intro group conv stored changed
      by_cases at_target : group = target
      · subst at_target
        exact allowed conv stored
      · rw [h, update_of_ne at_target] at changed
        exact absurd stored changed

theorem welcome_confined_iff (crypto : ChatCrypto) (env : DispatchEnv) (reg : Registry)
    (envelope : TransitEnvelope) (groupId : GroupId) (verified : WelcomeVerified)
    (trustState : TrustState)
    (accepted : decryptAndVerifyWelcome crypto envelope groupId = .ok verified) :
    Confined reg
        (installOrRekeyConversation env reg envelope verified.payload verified.senderAgentHex
          (hexId groupId) trustState).2
        (hexId groupId) verified.senderAgentHex verified.payload.epoch ↔
      reg.Known (hexId groupId) ∨ env.installFault.isSome ∨
        verified.payload.groupIdHex = hexId groupId ∨
          reg.stored verified.payload.groupIdHex =
            some (.fromWelcome env.installClock verified.payload trustState) := by
  obtain ⟨_, _, _, _, _, _, checks⟩ := decryptAndVerifyWelcome_eq_ok.mp accepted
  rcases installOrRekeyConversation_stored env reg envelope verified.payload
    verified.senderAgentHex (hexId groupId) trustState with ⟨target, conv, writes, h⟩ | ⟨idle, h⟩
  · cases writes with
    | install fault unknown =>
      have faultless : env.installFault.isSome = false := by simp [fault]
      by_cases rewrites : reg.stored verified.payload.groupIdHex =
          some (.fromWelcome env.installClock verified.payload trustState)
      · have same := h.trans (update_eq_self_iff.mpr rewrites.symm)
        simp only [rewrites, or_true, iff_true]
        exact confined_of_same same _ _ _
      · rw [confined_update_iff h rewrites]
        simp only [unknown, faultless, rewrites, Bool.false_eq_true, false_or, or_false]
        refine ⟨fun confined => confined.1, fun named => ⟨named, ?_⟩⟩
        intro conv stored
        rw [named] at stored
        exact absurd (Registry.known_of_stored stored) unknown
    | rekey fault conv stored ahead member =>
      have known : reg.Known (hexId groupId) := Registry.known_of_stored stored
      simp only [known, true_or, iff_true]
      by_cases rewrites : reg.stored (hexId groupId) =
          some (conv.rekey env.installClock env.sweepClock verified.payload)
      · exact confined_of_same (h.trans (update_eq_self_iff.mpr rewrites.symm)) _ _ _
      · rw [confined_update_iff h rewrites]
        refine ⟨rfl, ?_⟩
        intro conv' stored'
        rw [stored] at stored'
        cases stored'
        rw [checks.epoch]
        exact ⟨member, ahead⟩
  · have confined := confined_of_same h (hexId groupId) verified.senderAgentHex
      verified.payload.epoch
    simp only [confined, true_iff]
    by_contra none_holds
    simp only [not_or] at none_holds
    obtain ⟨unknown, faultless, _⟩ := none_holds
    exact idle _ _ (.install (by simpa using faultless) unknown)

theorem welcome_confined_honest :
    Confined emptyRegistry
      (installOrRekeyConversation quietEnv emptyRegistry
        (idealEnvelope .dm freshGroup 1 malloryKey [1])
        (idealPayload (hexId freshGroup) 1 malloryKey []) (hexId malloryId) (hexId freshGroup)
        .pending).2
      (hexId freshGroup) (hexId malloryId) 1 := by
  have accepted : (decryptAndVerifyWelcome (idealChat
      [idealEntry (idealEnvelope .dm freshGroup 1 malloryKey [1]) malloryKey]
      (idealPayload (hexId freshGroup) 1 malloryKey []) emptyMessage emptyReceipt)
      (idealEnvelope .dm freshGroup 1 malloryKey [1]) freshGroup).toOption =
        some ⟨idealPayload (hexId freshGroup) 1 malloryKey [], hexId malloryId,
          Base64.encode malloryKey, ""⟩ := by decide +kernel
  exact (welcome_confined_iff _ quietEnv emptyRegistry _ freshGroup _ .pending
    (Outcome.toOption_eq_some.mp accepted)).mpr (.inr (.inr (.inl rfl)))

/-- A Welcome for a fresh group replaces the conversation that its payload names. -/
theorem welcome_replaces_other_group :
    let reg := Registry.ofConversation bobConversation
    let envelope := idealEnvelope .dm freshGroup 1 malloryKey [1]
    let payload := idealPayload (hexId bobGroup) 1 malloryKey []
    let after := (installOrRekeyConversation quietEnv reg envelope payload (hexId malloryId)
      (hexId freshGroup) .pending).2
    decryptAndVerifyWelcome
        (idealChat [idealEntry envelope malloryKey] payload emptyMessage emptyReceipt) envelope
        freshGroup = .ok ⟨payload, hexId malloryId, Base64.encode malloryKey, ""⟩ ∧
      reg.stored (hexId bobGroup) = some bobConversation ∧
      after.stored (hexId bobGroup) = some (.fromWelcome 0 payload .pending) ∧
      hasDevice bobConversation.members (hexId malloryId) = false ∧
      payload.epoch < bobConversation.currentEpoch ∧
      ¬ Confined reg after (hexId freshGroup) (hexId malloryId) payload.epoch := by
  intro reg envelope payload after
  have stored : reg.stored (hexId bobGroup) = some bobConversation := by decide +kernel
  have replaced : after.stored (hexId bobGroup) = some (.fromWelcome 0 payload .pending) := by
    decide +kernel
  refine ⟨Outcome.toOption_eq_some.mp (by decide +kernel), stored, replaced, by decide +kernel,
    by decide, ?_⟩
  intro confined
  have kept := confined.1 (hexId bobGroup) freshGroup_ne_bobGroup.symm
  have epochs : (1 : Nat) = 5 := congrArg Conversation.currentEpoch (Option.some.inj kept)
  omega

end Fetchit.Chat
