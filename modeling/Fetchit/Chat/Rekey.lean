import Fetchit.Chat.Interleaving

/-! Re-keying a conversation: the timed sweep of an admin and the forced re-key of a wedged direct
conversation. Both build the Welcomes of the prospective epoch first and commit the epoch only if
that succeeds and the conversation has not moved on since. -/
namespace Fetchit.Chat
open Lib Lib.Outcome Proto.Identity Proto.Envelope

def maxEpoch : Nat := 2 ^ 32 - 1

def addEpoch (epoch jump : Nat) : Nat := min (epoch + jump) maxEpoch

def maxForcedEpochJump : Nat := 16

namespace Conversation

def advanceEpochTo (now sweepNow floor : Nat) (newKeyB64 : String) (conv : Conversation) :
    Conversation :=
  sweepPriorKeys sweepNow { conv with
    priorKeys := conv.priorKeys ++
      [⟨conv.currentEpoch, conv.currentKeyB64, now + priorKeyWindowMs⟩]
    currentEpoch := addEpoch (max floor conv.currentEpoch) 1
    currentKeyB64 := newKeyB64
    lastRekeyAtMs := now }

def autoRekeyDue (now : Nat) (conv : Conversation) : Bool :=
  conv.ownRole == .admin && decide (conv.autoRekeyIntervalMs < now - conv.lastRekeyAtMs)

def forcedFloor (force : Bool) (conv : Conversation) : Nat :=
  if force then
    max (min conv.wedgeMaxStaleEpoch (addEpoch conv.currentEpoch maxForcedEpochJump))
      conv.currentEpoch
  else conv.currentEpoch

def highestPeer (localAgentHex : String) (conv : Conversation) : Option String :=
  (((allDevices conv.members).map (·.agentIdHex)).filter (· != localAgentHex)).max?

/-- Of two devices that force a re-key at the same time, the one with the higher agent id claims
the higher epoch. -/
def tiebreak (force : Bool) (localAgentHex : String) (conv : Conversation) : Nat :=
  if force && (conv.highestPeer localAgentHex).any (fun peer => decide (peer < localAgentHex))
  then 1 else 0

def targetFloor (force : Bool) (localAgentHex : String) (conv : Conversation) : Nat :=
  addEpoch (conv.forcedFloor force) (conv.tiebreak force localAgentHex)

end Conversation

def kemPublicKeyLen : Nat := 1184

/-- The endpoint: the local identity, the texts of its decoders' errors, and the failures of the
seals, by recipient. -/
structure SendEnv where
  agentIdHex : String
  signerPublicKeyB64 : String
  hexError : String → String
  base64Error : String → String
  welcomeFault : String → Option ChatError

def Conversation.fanoutDevices (conv : Conversation) (localAgentIdHex : String) :
    List MemberDevice :=
  (allDevices conv.members).filter fun device =>
    device.status == .active && device.agentIdHex != localAgentIdHex

theorem Conversation.mem_fanoutDevices {conv : Conversation} :
    device ∈ conv.fanoutDevices localAgentIdHex ↔
      (∃ member ∈ conv.members, device ∈ member.devices) ∧ device.status = .active ∧
        device.agentIdHex ≠ localAgentIdHex := by
  simp [fanoutDevices, allDevices]

section
variable (env : SendEnv)

def checkAgentHex (label text : String) : Except ChatError Unit :=
  require ((Text.hexDecode text).any (·.length == 32))
    (.invalid s!"{label} hex: {env.hexError text}")

def groupIdBytes (conv : Conversation) : Except ChatError Bytes := do
  let bytes ← okOr (Text.hexDecode conv.groupIdHex)
    (.invalid s!"group_id hex: {env.hexError conv.groupIdHex}")
  require (bytes.length == 32) (.invalid "group_id length")
  .ok bytes

def failing (fault : Option ChatError) : Except ChatError Unit :=
  match fault with
  | some error => .error error
  | none => .ok ()

def buildWelcomeOutbox (conv : Conversation) : Except ChatError (List MemberDevice) := do
  let _ ← groupIdBytes env conv
  checkAgentHex env "local agent_id" env.agentIdHex
  (conv.fanoutDevices env.agentIdHex).forM fun device => do
    let kem ← okOr (Base64.decode device.kemPublicKeyB64)
      (.invalid s!"device kem b64: {env.base64Error device.kemPublicKeyB64}")
    require (kem.length == kemPublicKeyLen) (.invalid "device kem key length")
    failing (env.welcomeFault device.agentIdHex)
    checkAgentHex env "recipient agent_id" device.agentIdHex
  .ok (conv.fanoutDevices env.agentIdHex)

end

structure SealedParts where
  timestampMs : UInt64
  ciphertext : Bytes
  nonce : Bytes
  kemCiphertext : Bytes
  signature : Bytes

/-- One attempt to re-key: the client, the key it draws, what the seals produce, the clock at each
reading and the outcome of the commit. -/
structure RekeyEnv where
  client : SendEnv
  agentId : AgentId
  named : client.agentIdHex = hexId agentId
  machineId : Bytes
  newKey : Vector UInt8 aeadKeyLen
  sealedFor : String → SealedParts
  pickClock : Nat
  buildClock : Nat
  dueClock : Nat
  advanceClock : Nat
  sweepClock : Nat
  commitFault : Option ChatError

def RekeyEnv.newKeyB64 (env : RekeyEnv) : String := Base64.encode env.newKey.toList

/-- A Welcome on its way, with the payload that its ciphertext opens to. -/
structure OutboundWelcome where
  recipientAgentHex : String
  envelope : TransitEnvelope
  payload : WelcomePayload

def RekeyEnv.attest (env : RekeyEnv) (device : MemberDevice) : MemberDevice :=
  if device.agentIdHex = env.client.agentIdHex then
    { device with agentPublicKeyB64 := some env.client.signerPublicKeyB64 }
  else device

def RekeyEnv.welcomePayload (env : RekeyEnv) (conv : Conversation) : WelcomePayload where
  groupIdHex := conv.groupIdHex
  currentKeyB64 := conv.currentKeyB64
  epoch := conv.currentEpoch
  members := conv.members.map fun member =>
    { member with devices := member.devices.map env.attest }
  name := conv.name

def parseGroupId (text : String) : Option GroupId :=
  (Text.hexDecode text).bind fun bytes =>
    if size : bytes.toArray.size = 32 then some ⟨bytes.toArray, size⟩ else none

def RekeyEnv.welcome (env : RekeyEnv) (conv : Conversation) (device : MemberDevice) :
    OutboundWelcome where
  recipientAgentHex := device.agentIdHex
  payload := env.welcomePayload conv
  envelope :=
    let parts := env.sealedFor device.agentIdHex
    { version := 1
      kind := .groupChat
      groupId := parseGroupId conv.groupIdHex
      tenantId := none
      senderAgentId := env.agentId
      senderMachineId := env.machineId
      timestampMs := parts.timestampMs
      epoch := conv.currentEpoch
      ciphertext := parts.ciphertext
      nonce := parts.nonce
      kemCiphertext := parts.kemCiphertext
      senderSignature := parts.signature }

def RekeyEnv.buildWelcomes (env : RekeyEnv) (conv : Conversation) :
    Except ChatError (List OutboundWelcome) :=
  (buildWelcomeOutbox env.client conv).map (·.map (env.welcome conv))

namespace RekeyEnv
variable (env : RekeyEnv)

def advance (now sweepNow : Nat) (force : Bool) (snapshot conv : Conversation) : Conversation :=
  conv.advanceEpochTo now sweepNow (snapshot.targetFloor force env.client.agentIdHex)
    env.newKeyB64

/-- The locked commit. A forced re-key also clears the wedge marks that it acted on. -/
def commit (force : Bool) (snapshot conv : Conversation) : MutateAction Bool × Conversation :=
  if (force || conv.autoRekeyDue env.dueClock) && conv.currentEpoch == snapshot.currentEpoch then
    let conv := env.advance env.advanceClock env.sweepClock force snapshot conv
    (.persist true,
      if force then { conv with wedgeProgressEpoch := conv.currentEpoch, wedgeMaxStaleEpoch := 0 }
      else conv)
  else (.skip false, conv)

end RekeyEnv

def tryRekeyAndBuildWelcomes (env : RekeyEnv) (reg : Registry) (snapshot : Conversation)
    (force : Bool) : Except ChatError (Option (List OutboundWelcome)) × Registry :=
  match env.buildWelcomes (env.advance env.buildClock env.buildClock force snapshot snapshot) with
  | .error _ => (.ok none, reg)
  | .ok welcomes =>
    match reg.mutateInPlace snapshot.groupIdHex env.commitFault (env.commit force snapshot) with
    | (.error error, reg) => (.error error, reg)
    | (.ok false, reg) => (.ok none, reg)
    | (.ok true, reg) => (.ok (some welcomes), reg)

def sweepRounds (reg : Registry) (rekeyed : Nat) :
    List (RekeyEnv × Conversation) → Except ChatError Nat × Registry
  | [] => (.ok rekeyed, reg)
  | (env, snapshot) :: rounds =>
    if snapshot.autoRekeyDue env.pickClock then
      match tryRekeyAndBuildWelcomes env reg snapshot false with
      | (.error error, reg) => (.error error, reg)
      | (.ok none, reg) => sweepRounds reg rekeyed rounds
      | (.ok (some _), reg) => sweepRounds reg (rekeyed + 1) rounds
    else sweepRounds reg rekeyed rounds

def snapshotCached (reg : Registry) : List Conversation :=
  reg.byGroupId.entries.map (·.2)

def sweepAutoRekey (envFor : String → RekeyEnv) (reg : Registry) :
    Except ChatError Nat × Registry :=
  sweepRounds reg 0 ((snapshotCached reg).map fun conv => (envFor conv.groupIdHex, conv))

def freshKeys (contacts : Contacts) (agentIdHex : String) : Option (String × Option String) :=
  match StoredContactCard.load contacts agentIdHex with
  | .ok (some card) =>
    if (Base64.decode card.kemPublicKeyB64).any (·.length == kemPublicKeyLen) then
      some (card.kemPublicKeyB64, card.agentPublicKeyB64)
    else none
  | _ => none

/-- A device with the keys on file; a missing signing key on file leaves the recorded one. -/
def MemberDevice.refreshed (keys : String → Option (String × Option String))
    (device : MemberDevice) : MemberDevice :=
  match keys device.agentIdHex with
  | none => device
  | some (kem, signing) =>
    { device with
      kemPublicKeyB64 := kem
      agentPublicKeyB64 := signing.or device.agentPublicKeyB64 }

def refreshRoster (keys : String → Option (String × Option String)) (conv : Conversation) :
    MutateAction Bool × Conversation :=
  let members := conv.members.map fun member =>
    { member with devices := member.devices.map (MemberDevice.refreshed keys) }
  if members = conv.members then (.skip false, conv)
  else (.persist true, { conv with members := members })

/-- What a forced re-key meets: the cards after the relay was asked for the peers, and the outcome
of writing the refreshed roster. -/
structure ForceEnv where
  rekey : RekeyEnv
  resolved : Contacts → List String → Contacts
  rosterFault : Option ChatError

def refreshConversationRoster (env : ForceEnv) (reg : Registry) (groupIdHex : String) :
    Except ChatError Bool × Registry :=
  match reg.get groupIdHex with
  | (.error error, reg) => (.error error, reg)
  | (.ok none, reg) => (.ok false, reg)
  | (.ok (some conv), reg) =>
    let peers := ((allDevices conv.members).map (·.agentIdHex)).filter
      (· != env.rekey.client.agentIdHex)
    if peers.isEmpty then (.ok false, reg)
    else
      let reg := { reg with contacts := env.resolved reg.contacts peers }
      let keys := fun agentIdHex =>
        if peers.contains agentIdHex then freshKeys reg.contacts agentIdHex else none
      if peers.all fun agentIdHex => (keys agentIdHex).isNone then (.ok false, reg)
      else reg.mutateInPlace groupIdHex env.rosterFault (refreshRoster keys)

/-- A failed refresh of the roster is only logged. A conversation of more than two members is
never forced. -/
def forceRekeyDm (env : ForceEnv) (reg : Registry) (groupIdHex : String) :
    Except ChatError Bool × Registry :=
  match (refreshConversationRoster env reg groupIdHex).2.get groupIdHex with
  | (.error error, reg) => (.error error, reg)
  | (.ok none, reg) => (.ok false, reg)
  | (.ok (some snapshot), reg) =>
    if (snapshot.fanoutDevices env.rekey.client.agentIdHex).isEmpty then (.ok false, reg)
    else if snapshot.members.length > 2 then (.ok false, reg)
    else
      match tryRekeyAndBuildWelcomes env.rekey reg snapshot true with
      | (.error error, reg) => (.error error, reg)
      | (.ok none, reg) => (.ok false, reg)
      | (.ok (some _), reg) => (.ok true, reg)

/-! What an attempt leaves behind. -/

theorem RekeyEnv.sealed_commit (env : RekeyEnv) (force : Bool) (snapshot conv : Conversation) :
    Registry.sealed env.commitFault (env.commit force snapshot) conv =
      if env.commitFault = none ∧ (force || conv.autoRekeyDue env.dueClock) = true ∧
          conv.currentEpoch = snapshot.currentEpoch then
        some (env.commit force snapshot conv).2
      else none := by
  unfold Registry.sealed RekeyEnv.commit
  cases env.commitFault with
  | some error => simp
  | none =>
    cases force || conv.autoRekeyDue env.dueClock with
    | false => simp
    | true =>
      by_cases same : conv.currentEpoch = snapshot.currentEpoch
      · simp [same]
      · simp [same]

variable {force : Bool} {snapshot : Conversation} {reg : Registry}

theorem RekeyEnv.commit_committed {env : RekeyEnv} {groupIdHex : String}
    (committed : (reg.mutateInPlace groupIdHex env.commitFault (env.commit force snapshot)).1 =
      .ok true) :
    ∃ conv, reg.stored groupIdHex = some conv ∧
      Registry.sealed env.commitFault (env.commit force snapshot) conv =
        some (env.commit force snapshot conv).2 := by
  generalize outcome : reg.mutateInPlace groupIdHex env.commitFault (env.commit force snapshot) =
    result at committed
  have spec := outcome ▸ reg.mutateInPlace_spec groupIdHex env.commitFault
    (env.commit force snapshot)
  cases spec with
  | failed | unsealed => cases committed
  | skipped conv conv' value after started skips filled =>
    cases committed
    unfold RekeyEnv.commit at skips
    split at skips <;> cases skips
  | committed conv conv' value after started persists sealed written =>
    refine ⟨conv, (Registry.stored_eq_base reg groupIdHex).trans started, ?_⟩
    simp [Registry.sealed, sealed, persists]

/-- A committed attempt: the Welcomes are those of the prospective conversation, and the stored one
has taken its epoch and its key. -/
theorem tryRekey_committed
    (ran : tryRekeyAndBuildWelcomes env reg snapshot force = (.ok (some welcomes), after)) :
    env.buildWelcomes (env.advance env.buildClock env.buildClock force snapshot snapshot) =
        .ok welcomes ∧
      ∃ conv, reg.stored snapshot.groupIdHex = some conv ∧
        (force || conv.autoRekeyDue env.dueClock) = true ∧
        conv.currentEpoch = snapshot.currentEpoch ∧
        after.stored = Function.update reg.stored snapshot.groupIdHex
          (some (env.commit force snapshot conv).2) := by
  unfold tryRekeyAndBuildWelcomes at ran
  split at ran
  · cases ran
  · rename_i built found
    split at ran
    · cases ran
    · cases ran
    · rename_i committedReg committed
      cases ran
      obtain ⟨conv, stored, sealed⟩ := RekeyEnv.commit_committed (congrArg Prod.fst committed)
      have allowed := sealed
      rw [RekeyEnv.sealed_commit] at allowed
      split at allowed
      · rename_i met
        refine ⟨found, conv, stored, met.2.1, met.2.2, ?_⟩
        have moved := Registry.stored_mutateInPlace reg snapshot.groupIdHex env.commitFault
          (env.commit force snapshot)
        rw [committed, stored, Option.map_some, sealed] at moved
        exact moved
      · cases allowed

theorem RekeyEnv.buildWelcomes_eq_ok {env : RekeyEnv}
    (built : env.buildWelcomes conv = .ok welcomes) :
    welcomes = (conv.fanoutDevices env.client.agentIdHex).map (env.welcome conv) := by
  unfold RekeyEnv.buildWelcomes at built
  cases outbox : buildWelcomeOutbox env.client conv with
  | error error =>
    rw [outbox] at built
    cases built
  | ok devices =>
    rw [outbox] at built
    cases built
    simp only [buildWelcomeOutbox, bind_eq_ok, Except.ok.injEq] at outbox
    obtain ⟨_, _, _, _, _, _, rfl⟩ := outbox
    rfl

theorem tryRekey_uncommitted
    (ran : tryRekeyAndBuildWelcomes env reg snapshot force = (result, after))
    (nothing : ∀ welcomes, result ≠ .ok (some welcomes)) : after.stored = reg.stored := by
  unfold tryRekeyAndBuildWelcomes at ran
  split at ran
  · cases ran
    rfl
  · rename_i welcomes built
    have kept (conv) (started : (reg.cell snapshot.groupIdHex).base none = some conv)
        (unsealed : Registry.sealed env.commitFault (env.commit force snapshot) conv = none) :
        (reg.mutateInPlace snapshot.groupIdHex env.commitFault
          (env.commit force snapshot)).2.stored = reg.stored := by
      rw [Registry.stored_mutateInPlace, Registry.stored_eq_base, started, Option.map_some,
        unsealed, Option.getD_none, ← started, ← Registry.stored_eq_base, Function.update_eq_self]
    have spec := reg.mutateInPlace_spec snapshot.groupIdHex env.commitFault
      (env.commit force snapshot)
    generalize reg.mutateInPlace snapshot.groupIdHex env.commitFault
      (env.commit force snapshot) = commits at ran kept spec
    cases spec with
    | failed =>
      cases ran
      rfl
    | skipped conv conv' value after started skips filled =>
      have stored := kept conv started (by cases env.commitFault <;> simp [Registry.sealed, skips])
      cases value <;> cases ran <;> exact stored
    | unsealed conv conv' value error after started persists refused filled =>
      cases ran
      exact kept conv started (by simp [Registry.sealed, refused])
    | committed conv conv' value after started persists sealed written =>
      unfold RekeyEnv.commit at persists
      split at persists
      · cases persists
        cases ran
        exact absurd rfl (nothing welcomes)
      · cases persists

theorem tryRekey_commits
    (built : env.buildWelcomes (env.advance env.buildClock env.buildClock force snapshot snapshot) =
      .ok welcomes) (cached : reg.byGroupId.lookup snapshot.groupIdHex = some snapshot)
    (due : (force || snapshot.autoRekeyDue env.dueClock) = true) (seals : env.commitFault = none) :
    ∃ after, tryRekeyAndBuildWelcomes env reg snapshot force = (.ok (some welcomes), after) := by
  have commits : env.commit force snapshot snapshot =
      (.persist true, (env.commit force snapshot snapshot).2) := by
    simp [RekeyEnv.commit, due]
  unfold tryRekeyAndBuildWelcomes
  rw [built, seals]
  rw [Registry.mutateInPlace, Registry.mutateLocked_persist cached commits]
  exact ⟨_, rfl⟩

theorem buildWelcomeOutbox_ok (self : AgentId) (group : GroupId)
    (named : env.agentIdHex = hexId self) (grouped : conv.groupIdHex = hexId group)
    (devices : ∀ device ∈ conv.fanoutDevices env.agentIdHex, ∃ (agentId : AgentId) (kem : Bytes),
      device.agentIdHex = hexId agentId ∧ device.kemPublicKeyB64 = Base64.encode kem ∧
        kem.length = kemPublicKeyLen ∧ env.welcomeFault device.agentIdHex = none) :
    buildWelcomeOutbox env conv = .ok (conv.fanoutDevices env.agentIdHex) := by
  have hex : ∀ (label : String) (agentId : AgentId),
      checkAgentHex env label (hexId agentId) = .ok () := by
    simp [checkAgentHex, hexId]
  have groupId : groupIdBytes env conv = .ok group.toList := by
    simp [groupIdBytes, grouped, hexId, okOr, require]
  have sealable : (conv.fanoutDevices env.agentIdHex).forM (fun device => do
      let kem ← okOr (Base64.decode device.kemPublicKeyB64)
        (.invalid s!"device kem b64: {env.base64Error device.kemPublicKeyB64}")
      require (kem.length == kemPublicKeyLen) (.invalid "device kem key length")
      failing (env.welcomeFault device.agentIdHex)
      checkAgentHex env "recipient agent_id" device.agentIdHex) =
        (.ok () : Except ChatError Unit) := by
    generalize conv.fanoutDevices env.agentIdHex = others at devices
    induction others with
    | nil => rfl
    | cons device others ih =>
      obtain ⟨agentId, kem, listed, keyed, long, fault⟩ := devices device List.mem_cons_self
      have rest := ih fun other mem => devices other (List.mem_cons_of_mem _ mem)
      rw [List.forM, keyed, Base64.decode_encode, fault, listed]
      simp only [okOr, long, hex, ok_bind]
      exact rest
  unfold buildWelcomeOutbox
  rw [groupId, named, hex, ← named, sealable]
  rfl

end Fetchit.Chat
