import Fetchit.Chat.Inbound

/-! Frames of a sender outside the group. The sender is verified against the contact store
only, so every frame that gets past the key lookup writes to the conversation, whoever sent
it. -/
namespace Fetchit.Chat
open Lib Lib.Outcome Proto.Identity Proto.Envelope Registry

namespace Conversation

def Repels (crypto : ChatCrypto) (env : DispatchEnv) (envelope : TransitEnvelope)
    (conv : Conversation) : Prop :=
  match conv.keyForEpoch crypto.base64Error env.keyClock envelope.epoch with
  | .error _ => True
  | .ok none =>
    env.wedgeFault.isSome ∨
      conv.wedgeLastInboundMs = env.wedgeClock ∧
        (conv.currentEpoch < envelope.epoch → envelope.epoch ≤ conv.wedgeMaxStaleEpoch)
  | .ok (some _) =>
    match parseNonce envelope.nonce with
    | .error _ => True
    | .ok nonce =>
      nonce ∈ conv.nonceWindow (hexId envelope.senderAgentId) ∨ env.nonceFault.isSome

theorem wedgeInbound_eq_self {conv : Conversation} :
    conv.wedgeInbound now (some epoch) = conv ↔
      conv.wedgeLastInboundMs = now ∧
        (conv.currentEpoch < epoch → epoch ≤ conv.wedgeMaxStaleEpoch) := by
  constructor
  · intro same
    have inbound := congrArg wedgeLastInboundMs same
    have stale := congrArg wedgeMaxStaleEpoch same
    simp only [wedgeInbound] at inbound stale
    refine ⟨inbound.symm, ?_⟩
    intro ahead
    rw [if_pos ahead] at stale
    omega
  · rintro ⟨rfl, bound⟩
    have stale : (if epoch > conv.currentEpoch then max conv.wedgeMaxStaleEpoch epoch
        else conv.wedgeMaxStaleEpoch) = conv.wedgeMaxStaleEpoch := by
      split
      · omega
      · rfl
    simp only [wedgeInbound, stale]

theorem seenNonces_insert_ne {conv : Conversation}
    (fresh : nonce ∉ conv.nonceWindow senderAgentHex) :
    conv.seenNonces.insert senderAgentHex (pushNonce (conv.nonceWindow senderAgentHex) nonce) ≠
      conv.seenNonces := by
  intro same
  apply fresh
  have found : conv.seenNonces.lookup senderAgentHex =
      some (pushNonce (conv.nonceWindow senderAgentHex) nonce) := by
    rw [← same, AList.lookup_insert]
  unfold nonceWindow
  rw [found]
  simp [pushNonce]

end Conversation

/-- What opening a frame does to the stored conversation of its group. -/
inductive FrameSpec (crypto : ChatCrypto) (env : DispatchEnv) (envelope : TransitEnvelope)
    (groupIdHex : String) (conv : Conversation) :
    Except ChatError (InboundDispatch ⊕ Bytes) × Registry → Prop
  | failed (error : ChatError) (after : Registry)
      (kept : after.stored groupIdHex = some conv ↔ conv.Repels crypto env envelope) :
      FrameSpec crypto env envelope groupIdHex conv (.error error, after)
  | stopped (verdict : InboundDispatch) (after : Registry)
      (kept : after.stored groupIdHex = some conv ↔ conv.Repels crypto env envelope) :
      FrameSpec crypto env envelope groupIdHex conv (.ok (.inl verdict), after)
  | opened (plaintext : Bytes) (after : Registry) (admits : ¬ conv.Repels crypto env envelope)
      (recorded : after.Caches groupIdHex fun conv' => conv'.seenNonces ≠ conv.seenNonces) :
      FrameSpec crypto env envelope groupIdHex conv (.ok (.inr plaintext), after)

variable {groupIdHex : String} {conv : Conversation}

theorem Registry.Caches.stored_ne {reg : Registry}
    (h : reg.Caches groupIdHex fun conv' => conv'.seenNonces ≠ conv.seenNonces) :
    reg.stored groupIdHex ≠ some conv := by
  obtain ⟨conv', cached, differs⟩ := h
  rw [stored_of_cached cached]
  intro same
  cases same
  exact differs rfl

theorem stored_noteWedgeInbound {reg : Registry}
    (cached : reg.byGroupId.lookup groupIdHex = some conv) (epoch now : Nat)
    (fault : Option ChatError) :
    (reg.noteWedgeInbound groupIdHex (some epoch) now fault).stored groupIdHex = some conv ↔
      fault.isSome ∨ conv.wedgeInbound now (some epoch) = conv := by
  let note : Conversation → MutateAction Unit × Conversation := fun conv =>
    (.persist (), conv.wedgeInbound now (some epoch))
  have hm : note conv = (.persist (), conv.wedgeInbound now (some epoch)) := rfl
  unfold noteWedgeInbound mutateInPlace
  cases fault with
  | some error =>
    rw [mutateLocked_fault cached hm]
    simp [stored_of_cached cached]
  | none =>
    rw [mutateLocked_persist cached hm]
    simp [stored_writeBack]

inductive NonceSpec (reg : Registry) (groupIdHex senderAgentHex : String) (nonce : Nonce)
    (fault : Option ChatError) (conv : Conversation) :
    Except ChatError NonceCheckOutcome × Registry → Prop
  | replay (seen : nonce ∈ conv.nonceWindow senderAgentHex) :
      NonceSpec reg groupIdHex senderAgentHex nonce fault conv (.ok .replay, reg)
  | failed (error : ChatError) (unwritten : fault = some error) :
      NonceSpec reg groupIdHex senderAgentHex nonce fault conv (.error error, reg)
  | recorded (after : Registry) (fresh : nonce ∉ conv.nonceWindow senderAgentHex)
      (written : fault = none)
      (changed : after.Caches groupIdHex fun conv' => conv'.seenNonces ≠ conv.seenNonces) :
      NonceSpec reg groupIdHex senderAgentHex nonce fault conv (.ok .recorded, after)

theorem recordNonce_spec (cached : reg.byGroupId.lookup groupIdHex = some conv)
    (senderAgentHex : String) (nonce : Nonce) (fault : Option ChatError) :
    NonceSpec reg groupIdHex senderAgentHex nonce fault conv
      (reg.recordNonce groupIdHex senderAgentHex nonce fault) := by
  unfold recordNonce
  by_cases seen : nonce ∈ conv.nonceWindow senderAgentHex
  · have hm : recordNonceAction senderAgentHex nonce conv = (.skip .replay, conv) := by
      simp [recordNonceAction, Conversation.checkAndRecordNonce, seen]
    rw [mutateLocked_skip cached hm]
    exact .replay seen
  · let windows := conv.seenNonces.insert senderAgentHex
      (Conversation.pushNonce (conv.nonceWindow senderAgentHex) nonce)
    let noted := { conv with seenNonces := windows }
    have hm : recordNonceAction senderAgentHex nonce conv = (.persist .recorded, noted) := by
      simp [recordNonceAction, Conversation.checkAndRecordNonce, seen, noted, windows]
    cases fault with
    | some error =>
      rw [mutateLocked_fault cached hm]
      exact .failed error rfl
    | none =>
      rw [mutateLocked_persist cached hm]
      exact .recorded _ seen rfl
        ⟨noted, AList.lookup_insert _, Conversation.seenNonces_insert_ne seen⟩

theorem Registry.Caches.noteWedgeInbound {reg : Registry}
    (h : reg.Caches groupIdHex fun conv => conv.seenNonces ≠ nonces) (frameEpoch : Option Nat)
    (now : Nat) (fault : Option ChatError) :
    (reg.noteWedgeInbound groupIdHex frameEpoch now fault).Caches groupIdHex
      fun conv => conv.seenNonces ≠ nonces := by
  refine h.mutateLocked ?_ ?_ _ _
  · intro _ differs
    exact differs
  · intro _ _
    rfl

theorem Registry.Caches.noteWedgeProgress {reg : Registry}
    (h : reg.Caches groupIdHex fun conv => conv.seenNonces ≠ nonces) (now : Nat)
    (fault : Option ChatError) :
    (reg.noteWedgeProgress groupIdHex now fault).Caches groupIdHex
      fun conv => conv.seenNonces ≠ nonces := by
  refine h.mutateLocked ?_ ?_ _ _
  · intro _ differs
    exact differs
  · intro _ _
    rfl

theorem openFrame_spec {groupId : GroupId} (held : reg.stored (hexId groupId) = some conv)
    (crypto : ChatCrypto) (env : DispatchEnv) (envelope : TransitEnvelope) :
    FrameSpec crypto env envelope (hexId groupId) conv
      (openFrame crypto env reg envelope groupId) := by
  unfold openFrame
  dsimp only
  generalize hg : reg.get (hexId groupId) = got
  have spec := hg ▸ reg.get_spec (hexId groupId)
  cases spec with
  | failed _ _ unstored | absent _ unstored => simp [held] at unstored
  | found conv' looked _ stored cached same =>
    rw [held] at stored
    cases stored
    have kept : looked.stored (hexId groupId) = some conv := by rw [same, held]
    dsimp only
    cases hk : conv.keyForEpoch crypto.base64Error env.keyClock envelope.epoch with
    | error error =>
      refine .failed error looked (iff_of_true kept ?_)
      simp [Conversation.Repels, hk]
    | ok key =>
      cases key with
      | none =>
        refine .stopped _ _ ?_
        rw [stored_noteWedgeInbound cached, Conversation.wedgeInbound_eq_self]
        simp [Conversation.Repels, hk]
      | some key =>
        cases hn : parseNonce envelope.nonce with
        | error error =>
          refine .failed error looked (iff_of_true kept ?_)
          simp [Conversation.Repels, hk, hn]
        | ok nonce =>
          have repels : conv.Repels crypto env envelope ↔
              nonce ∈ conv.nonceWindow (hexId envelope.senderAgentId) ∨
                env.nonceFault.isSome := by
            simp [Conversation.Repels, hk, hn]
          dsimp only
          generalize hr : looked.recordNonce (hexId groupId)
            (hexId envelope.senderAgentId) nonce env.nonceFault = outcome
          have spec := hr ▸ recordNonce_spec cached (hexId envelope.senderAgentId) nonce
            env.nonceFault
          cases spec with
          | replay seen =>
            exact .stopped _ looked (iff_of_true kept (repels.mpr (.inl seen)))
          | failed error unwritten =>
            refine .failed error looked (iff_of_true kept (repels.mpr (.inr ?_)))
            simp [unwritten]
          | recorded noted fresh written changed =>
            have admits : ¬ conv.Repels crypto env envelope := by
              rw [repels]
              simp [fresh, written]
            dsimp only
            split
            · exact .stopped _ _
                (iff_of_false (changed.noteWedgeInbound _ _ _).stored_ne admits)
            · exact .opened _ _ admits (changed.noteWedgeProgress _ _)

theorem stored_dispatchReceipt (held : reg.stored (hexId groupId) = some conv) (crypto : ChatCrypto)
    (env : DispatchEnv) (envelope : TransitEnvelope) :
    (dispatchReceipt crypto env reg envelope groupId).2.stored (hexId groupId) = some conv ↔
      conv.Repels crypto env envelope := by
  unfold dispatchReceipt
  generalize ho : openFrame crypto env reg envelope groupId = outcome
  have spec := ho ▸ openFrame_spec held crypto env envelope
  cases spec with
  | failed error after kept | stopped verdict after kept => exact kept
  | opened plaintext after admits recorded =>
    dsimp only
    split
    · exact iff_of_false recorded.stored_ne admits
    · refine iff_of_false (Registry.Caches.stored_ne ?_) admits
      refine recorded.mutateLocked ?_ (fun _ _ => rfl) _ _
      intro conv' differs
      unfold recordDeliveryAction Conversation.applyDeliveryReceipt
      split <;> exact differs

theorem stored_dispatchMessage (held : reg.stored (hexId groupId) = some conv) (crypto : ChatCrypto)
    (env : DispatchEnv) (envelope : TransitEnvelope) :
    (dispatchMessage crypto env reg envelope groupId).2.stored (hexId groupId) = some conv ↔
      conv.Repels crypto env envelope := by
  unfold dispatchMessage
  generalize ho : openFrame crypto env reg envelope groupId = outcome
  have spec := ho ▸ openFrame_spec held crypto env envelope
  cases spec with
  | failed error after kept | stopped verdict after kept => exact kept
  | opened plaintext after admits recorded =>
    dsimp only
    split
    · exact iff_of_false recorded.stored_ne admits
    · refine iff_of_false (Registry.Caches.stored_ne ?_) admits
      refine Registry.Caches.mutateLocked ?_ ?_ ?_ _ _
      · unfold refreshHints
        split
        · exact recorded
        · exact recorded
      · intro _ differs
        exact differs
      · intro _ _
        rfl

def isFrame (envelope : TransitEnvelope) : Bool :=
  envelope.kind = .deliveryReceipt || envelope.kemCiphertext.isEmpty

section Dispatched

variable {crypto : ChatCrypto} {reg : Registry} {envelope : TransitEnvelope} {groupId : GroupId}
  (named : envelope.groupId = some groupId) (verified : verifySender crypto reg envelope = .ok .ok)
include named verified

theorem dispatchInbound_receipt (receipt : envelope.kind = .deliveryReceipt) (env : DispatchEnv) :
    dispatchInbound crypto env reg envelope = dispatchReceipt crypto env reg envelope groupId := by
  simp [dispatchInbound, named, receipt, verified]

theorem dispatchInbound_message (other : envelope.kind ≠ .deliveryReceipt)
    (message : envelope.kemCiphertext.isEmpty = true) (env : DispatchEnv) :
    dispatchInbound crypto env reg envelope = dispatchMessage crypto env reg envelope groupId := by
  simp only [dispatchInbound, named, other, message, verified, if_false, if_true]

end Dispatched

theorem outsider_confined_iff (crypto : ChatCrypto) (env : DispatchEnv) (reg : Registry)
    (envelope : TransitEnvelope) (groupId : GroupId) (conv : Conversation)
    (named : envelope.groupId = some groupId) (frame : isFrame envelope = true)
    (verified : verifySender crypto reg envelope = .ok .ok)
    (held : reg.stored (hexId groupId) = some conv) :
    (hasDevice conv.members (hexId envelope.senderAgentId) = false →
        (dispatchInbound crypto env reg envelope).2.stored (hexId groupId) = some conv) ↔
      hasDevice conv.members (hexId envelope.senderAgentId) = true ∨
        conv.Repels crypto env envelope := by
  have dispatched :
      (dispatchInbound crypto env reg envelope).2.stored (hexId groupId) = some conv ↔
        conv.Repels crypto env envelope := by
    by_cases receipt : envelope.kind = .deliveryReceipt
    · rw [dispatchInbound_receipt named verified receipt]
      exact stored_dispatchReceipt held crypto env envelope
    · have message : envelope.kemCiphertext.isEmpty = true := by simpa [isFrame, receipt] using frame
      rw [dispatchInbound_message named verified receipt message]
      exact stored_dispatchMessage held crypto env envelope
  rw [dispatched]
  cases hasDevice conv.members (hexId envelope.senderAgentId) with
  | false | true => simp

def cardOf (key : Bytes) : StoredContactCard :=
  ⟨hexId (deriveAgentId (idealCrypto []) key), "", "", some (Base64.encode key), none, none, none⟩

def acquainted : Registry := (ofConversation bobConversation).writeCard (cardOf malloryKey)

def strayFrame (epoch : Nat) : TransitEnvelope := idealEnvelope .dm bobGroup epoch malloryKey []

def strayChat (epoch : Nat) : ChatCrypto :=
  idealChat [idealEntry (strayFrame epoch) malloryKey] (idealPayload "" 0 malloryKey [])
    emptyMessage emptyReceipt

theorem outsider_confined_late_frame :
    (dispatchInbound (strayChat 3) quietEnv acquainted (strayFrame 3)).2.stored (hexId bobGroup) =
      some bobConversation := by
  have keyless : bobConversation.keyForEpoch (strayChat 3).base64Error quietEnv.keyClock 3 =
      .ok none := by decide +kernel
  refine (outsider_confined_iff (strayChat 3) quietEnv acquainted (strayFrame 3) bobGroup
    bobConversation rfl rfl (toOption_eq_some.mp (by decide +kernel)) (by decide +kernel)).mpr (.inr ?_)
    (by decide +kernel)
  have epoch : (strayFrame 3).epoch = 3 := rfl
  simp only [Conversation.Repels, epoch, keyless]
  exact .inr ⟨rfl, by decide⟩

/-- A frame of the outsider Mallory with an epoch ahead of Bob's conversation raises the mark
that a forced re-key jumps past. -/
theorem outsider_raises_stale_epoch :
    hasDevice bobConversation.members (hexId (strayFrame 9).senderAgentId) = false ∧
      verifySender (strayChat 9) acquainted (strayFrame 9) = .ok .ok ∧
      acquainted.stored (hexId bobGroup) = some bobConversation ∧
      ∃ conv, (dispatchInbound (strayChat 9) quietEnv acquainted (strayFrame 9)).2.stored
          (hexId bobGroup) = some conv ∧
        bobConversation.wedgeMaxStaleEpoch = 0 ∧ conv.wedgeMaxStaleEpoch = 9 := by
  refine ⟨by decide +kernel, toOption_eq_some.mp (by decide +kernel), by decide +kernel,
    bobConversation.wedgeInbound 0 (some 9), by decide +kernel, rfl, rfl⟩

end Fetchit.Chat
