import Fetchit.Chat.DeviceRecord
import Fetchit.Lib.Run

/-! Devices of one account that enrol and revoke devices against one relay. Each derives the
next list from its own cache, so a list that the relay accepts after a sibling's list drops
what the sibling did. -/
namespace Fetchit.Chat
open Lib Lib.Outcome Lib.Ratchet Lib.Run Proto.Identity Proto.PairRecord Relay.Directory

inductive ListOp where
  | append (cert : AgentCertificate) (newDeviceRelays : List String)
  | revoke (agentIdHex : String)
  deriving DecidableEq

namespace ListOp

def subject : ListOp → String
  | .append cert _ => cert.agentIdHex
  | .revoke agentIdHex => agentIdHex

def adds : ListOp → Bool
  | .append _ _ => true
  | .revoke _ => false

/-- The mint of either call; a new device without relays of its own is reached at the relay
that the record is posted to. -/
def mint (op : ListOp) (verifier : Verifier) (cached : Option PairRecordV4) (user : UserKeypair)
    (relay : String) (issuedAtMs : Nat) : Except ChatError PairRecordV4 :=
  match op with
  | .append cert newDeviceRelays =>
    appendAndMintFromMaster verifier cached (.ok user) cert
      (if newDeviceRelays.isEmpty then [relay] else newDeviceRelays) issuedAtMs
  | .revoke agentIdHex => removeAndMintFromMaster verifier cached (.ok user) agentIdHex issuedAtMs

def verb : ListOp → String
  | .append _ _ => "enroll"
  | .revoke _ => "revoke"

def publishResult (op : ListOp) (record : PairRecordV4)
    (outcome : Except ChatError PostV4Outcome) : Except ChatError PairRecordV4 := do
  match ← outcome with
  | .accepted => .ok record
  | .revisionReject current =>
    .error (.invalid
      s!"{op.verb} publish rejected: relay holds a newer revision {current}, re-run")

end ListOp

/-- What a minted record holds: the next revision, and the cached agents with the subject
added or removed. -/
theorem mint_ok {op : ListOp} {relay : String}
    (h : op.mint verifier cached user relay issuedAtMs = .ok record) :
    ∃ current, cached = some current ∧ record.userIdHex = user.userIdHex verifier ∧
      record.revision = nextRevision current.revision ∧
      ∀ agent, agent ∈ agentIds record.devices ↔
        if agent = op.subject then op.adds = true else agent ∈ agentIds current.devices := by
  cases op with
  | append cert newDeviceRelays =>
    simp only [ListOp.mint, appendAndMintFromMaster, bind_eq_ok, okOr_eq_ok] at h
    obtain ⟨current, found, _, revealed, minted⟩ := h
    cases revealed
    obtain ⟨owner, revision, devices⟩ := mintPairRecordV4_ok verifier minted
    refine ⟨current, found, owner, revision, fun agent => ?_⟩
    rw [devices, mem_agentIds_upsertDevice]
    by_cases same : agent = cert.agentIdHex
    · simp [same, ListOp.subject, ListOp.adds, deviceEntryFromCert]
    · simp [same, ListOp.subject, deviceEntryFromCert]
  | revoke agentIdHex =>
    simp only [ListOp.mint, removeAndMintFromMaster, bind_eq_ok, okOr_eq_ok] at h
    obtain ⟨current, found, removed, _, _, _, _, revealed, minted⟩ := h
    cases revealed
    obtain ⟨owner, revision, devices⟩ := mintPairRecordV4_ok verifier minted
    refine ⟨current, found, owner, revision, fun agent => ?_⟩
    have ids : agentIds record.devices = agentIds (current.devices.filter fun device =>
        device.agentIdHex != agentIdHex) := by
      rw [devices]
      split
      · exact agentIds_promoteFirst _
      · rfl
    rw [ids]
    by_cases same : agent = agentIdHex
    · simp [same, ListOp.subject, ListOp.adds, agentIds]
    · simp only [agentIds, ListOp.subject]
      grind

structure PublishCall (Device : Type) where
  device : Device
  op : ListOp
  record : PairRecordV4
  deriving DecidableEq

/-- The devices' caches, the relay, the calls in the order of their mints with what each has
returned, and the device whose record the relay accepted last. A call that fails before its
record is cached changes nothing and is left out. -/
structure Account (Device : Type) where
  cache : Device → Option PairRecordV4
  relay : ServerState
  calls : List (PublishCall Device)
  results : Nat → Option (Except ChatError PairRecordV4)
  owner : Option Device

structure AccountEnv where
  user : UserKeypair
  url : String
  relay : Environment

def AccountEnv.userIdHex (env : AccountEnv) : String := env.user.userIdHex env.relay.verifier

namespace Account
variable {Device : Type}

def start (initial : PairRecordV4) (relay : ServerState) : Account Device :=
  ⟨fun _ => some initial, relay, [], fun _ => none, none⟩

/-- A POST may reach the relay without its response being heard; it is then sent again, or
given up. -/
inductive Event (Device : Type) where
  | mint (device : Device) (op : ListOp) (issuedAtMs : Nat)
  | post (call length : Nat) (allowed heard : Bool)
  | giveUp (call : Nat) (error : ChatError)

def finish (account : Account Device) (index : Nat) (call : PublishCall Device)
    (outcome : Except ChatError PostV4Outcome) : Account Device :=
  { account with
    results := Function.update account.results index
      (some (call.op.publishResult call.record outcome)) }

def deliver (account : Account Device) (call : PublishCall Device)
    (answer : Except PairRecordHttpError ServerState) : Account Device :=
  match answer with
  | .ok relay => { account with relay := relay, owner := some call.device }
  | .error _ => account

def step [DecidableEq Device] (env : AccountEnv) (account : Account Device) :
    Event Device → Account Device
  | .mint device op issuedAtMs =>
    match op.mint env.relay.verifier (account.cache device) env.user env.url issuedAtMs with
    | .error _ => account
    | .ok record =>
      { account with
        cache := Function.update account.cache device (some record)
        calls := account.calls ++ [⟨device, op, record⟩] }
  | .post index length allowed heard =>
    match account.calls[index]?, account.results index with
    | some call, none =>
      let answer := postPairRecordV4 env.relay account.relay
        ⟨length, some call.record⟩ allowed
      if heard then
        (account.deliver call answer).finish index call (postOutcome (.ok (respond answer)))
      else account.deliver call answer
    | _, _ => account
  | .giveUp index error =>
    match account.calls[index]?, account.results index with
    | some call, none => account.finish index call (.error error)
    | _, _ => account

def published (env : AccountEnv) (account : Account Device) : Option PairRecordV4 :=
  account.relay.pairRecords.getV4 env.userIdHex

/-- When the relay would take a device's record, it holds the record it started with or one of
the same device. -/
def NoSibling (env : AccountEnv) (account : Account Device) : Event Device → Prop
  | .post index _ _ _ =>
    ∀ call ∈ account.calls[index]?,
      (∀ stored ∈ account.published env, stored.revision < call.record.revision) →
      ∀ owner ∈ account.owner, owner = call.device
  | _ => True

instance [DecidableEq Device] (env : AccountEnv) (account : Account Device)
    (event : Event Device) : Decidable (account.NoSibling env event) := by
  cases event <;> unfold NoSibling <;> infer_instance

/-- The subject of call `index` stands in the list as that call left it, or a later call
undid it. -/
def Stands (calls : List (PublishCall Device)) (index : Nat) (call : PublishCall Device)
    (devices : List DeviceEntryV4) : Prop :=
  (call.op.subject ∈ agentIds devices ↔ call.op.adds = true) ∨
    ∃ later undo, index < later ∧ calls[later]? = some undo ∧
      undo.op.subject = call.op.subject ∧ undo.op.adds ≠ call.op.adds

variable {calls : List (PublishCall Device)} {index issuedAtMs : Nat} {call : PublishCall Device}
  {env : AccountEnv} {record : PairRecordV4} {device : Device} {op : ListOp}
  {account : Account Device}

theorem Stands.append (stands : Stands calls index call devices) (extra : PublishCall Device) :
    Stands (calls ++ [extra]) index call devices := by
  rcases stands with kept | ⟨later, undo, after, found, same, opposite⟩
  · exact .inl kept
  · refine .inr ⟨later, undo, after, ?_, same, opposite⟩
    rw [List.getElem?_append_left (List.getElem?_eq_some_iff.mp found).1]
    exact found

theorem Stands.mint (stands : Stands calls index call current.devices)
    (earlier : index < calls.length)
    (minted : op.mint env.relay.verifier (some current) env.user env.url issuedAtMs =
      .ok record) :
    Stands (calls ++ [⟨device, op, record⟩]) index call record.devices := by
  rcases stands with kept | undone
  · obtain ⟨base, cached, _, _, members⟩ := mint_ok minted
    cases cached
    by_cases same : call.op.subject = op.subject
    · by_cases kind : op.adds = call.op.adds
      · left
        rw [members, if_pos same, kind]
      · exact .inr ⟨calls.length, ⟨device, op, record⟩, earlier, by simp, same.symm, kind⟩
    · left
      rw [members, if_neg same]
      exact kept
  · exact Stands.append (.inr undone) _

theorem stands_own
    (minted : op.mint env.relay.verifier cached env.user env.url issuedAtMs = .ok record) :
    Stands calls index ⟨device, op, record⟩ record.devices := by
  obtain ⟨_, _, _, _, members⟩ := mint_ok minted
  left
  rw [members, if_pos rfl]

/-- How the calls of one device, its cache and the relay's record follow one another. -/
structure Traced (env : AccountEnv) (account : Account Device) : Prop where
  owned : ∀ (i : Nat) call, account.calls[i]? = some call → call.record.userIdHex = env.userIdHex
  cached : ∀ (i : Nat) call, account.calls[i]? = some call → ∃ record,
    account.cache call.device = some record ∧ call.record.revision ≤ record.revision ∧
      Stands account.calls i call record.devices
  chained : ∀ (i j : Nat) call later, account.calls[i]? = some call → account.calls[j]? = some later →
    i ≤ j → call.device = later.device → call.record.revision ≤ later.record.revision ∧
      Stands account.calls i call later.record.devices
  finished : ∀ i, account.results i ≠ none → i < account.calls.length
  accepted : ∀ (i : Nat) call record, account.calls[i]? = some call →
    account.results i = some (.ok record) → ∃ j last, i ≤ j ∧
      account.calls[j]? = some last ∧ last.device = call.device ∧
      account.owner = some call.device ∧ account.published env = some last.record

theorem start_traced (env : AccountEnv) (initial : PairRecordV4) (relay : ServerState) :
    (start initial relay : Account Device).Traced env := by
  constructor <;> simp [start]

theorem getElem?_append_singleton {Item : Type} {items : List Item} {extra found : Item}
    (h : (items ++ [extra])[index]? = some found) :
    (items[index]? = some found) ∨ (index = items.length ∧ found = extra) := by
  by_cases before : index < items.length
  · left
    rwa [List.getElem?_append_left before] at h
  · right
    rw [List.getElem?_append_right (by omega), List.getElem?_singleton] at h
    split at h
    · cases h
      exact ⟨by omega, rfl⟩
    · cases h

theorem Traced.minted (traced : account.Traced env)
    (minted : op.mint env.relay.verifier (account.cache device) env.user env.url issuedAtMs =
      .ok record) (here : account.calls[i]? = some call) (same : call.device = device) :
    call.record.revision ≤ record.revision ∧
      Stands (account.calls ++ [⟨device, op, record⟩]) i call record.devices := by
  obtain ⟨current, found, _, revision, _⟩ := mint_ok minted
  obtain ⟨held, stored, below, stands⟩ := traced.cached i call here
  rw [same, found] at stored
  cases stored
  rw [found] at minted
  refine ⟨?_, stands.mint (List.getElem?_eq_some_iff.mp here).1 minted⟩
  have := le_nextRevision current.revision
  omega

theorem Traced.mint [DecidableEq Device] (traced : account.Traced env) (device : Device)
    (op : ListOp) (issuedAtMs : Nat) :
    (step env account (.mint device op issuedAtMs)).Traced env := by
  simp only [step]
  split
  · exact traced
  · rename_i record minted
    obtain ⟨_, _, owner, _, _⟩ := mint_ok minted
    have bound : ∀ (i : Nat) call, account.calls[i]? = some call → i < account.calls.length :=
      fun i call here => (List.getElem?_eq_some_iff.mp here).1
    refine ⟨?_, ?_, ?_, ?_, ?_⟩
    · intro i call here
      rcases getElem?_append_singleton here with old | ⟨_, rfl⟩
      · exact traced.owned i call old
      · exact owner
    · intro i call here
      rcases getElem?_append_singleton here with old | ⟨_, rfl⟩
      · by_cases same : call.device = device
        · exact ⟨record, by simp [same], traced.minted minted old same⟩
        · obtain ⟨held, stored, below, stands⟩ := traced.cached i call old
          exact ⟨held, by simpa [same] using stored, below, stands.append _⟩
      · exact ⟨record, by simp, le_rfl, stands_own minted⟩
    · intro i j call later here there le same
      rcases getElem?_append_singleton there with oldLater | ⟨last, rfl⟩
      · rcases getElem?_append_singleton here with old | ⟨last, rfl⟩
        · obtain ⟨below, stands⟩ := traced.chained i j call later old oldLater le same
          exact ⟨below, stands.append _⟩
        · have := bound j later oldLater
          omega
      · rcases getElem?_append_singleton here with old | ⟨_, rfl⟩
        · exact traced.minted minted old same
        · exact ⟨le_rfl, stands_own minted⟩
    · intro i done
      have := traced.finished i done
      simp only [List.length_append]
      omega
    · intro i call result here done
      rcases getElem?_append_singleton here with old | ⟨last, rfl⟩
      · obtain ⟨j, last, le, there, rest⟩ := traced.accepted i call result old done
        refine ⟨j, last, le, ?_, rest⟩
        rw [List.getElem?_append_left (bound j last there)]
        exact there
      · have := traced.finished i (fun open_ => by cases open_.symm.trans done)
        omega

theorem publishResult_eq_ok
    (h : op.publishResult record outcome = .ok returned) : outcome = .ok .accepted := by
  cases outcome with
  | error e => cases h
  | ok answer =>
    cases answer with
    | accepted => rfl
    | revisionReject current => cases h

theorem Traced.finish (traced : account.Traced env) (here : account.calls[index]? = some call)
    (success : outcome = .ok .accepted → account.owner = some call.device ∧
      account.published env = some call.record) :
    (account.finish index call outcome).Traced env := by
  refine ⟨traced.owned, traced.cached, traced.chained, ?_, ?_⟩
  · intro i done
    by_cases same : i = index
    · subst same
      exact (List.getElem?_eq_some_iff.mp here).1
    · exact traced.finished i (by simpa [Account.finish, same] using done)
  · intro i other record there done
    by_cases same : i = index
    · subst same
      cases there.symm.trans here
      have result : call.op.publishResult call.record outcome = .ok record := by
        simpa [Account.finish] using done
      obtain ⟨owner, stored⟩ := success (publishResult_eq_ok result)
      exact ⟨i, call, le_rfl, here, rfl, owner, stored⟩
    · exact traced.accepted i other record there (by simpa [Account.finish, same] using done)

theorem published_of_accepted {relay : ServerState} (owned : call.record.userIdHex = env.userIdHex)
    (h : postPairRecordV4 env.relay account.relay ⟨length, some call.record⟩ allowed =
      .ok relay) :
    relay.pairRecords.getV4 env.userIdHex = some call.record ∧
      ∀ stored ∈ account.published env, stored.revision < call.record.revision := by
  obtain ⟨record, index, same, put, rfl⟩ := postPairRecordV4_ok h
  cases same
  obtain ⟨rfl, above⟩ := map_putIfNewer_ok _ _ put
  rw [← owned]
  refine ⟨by simp [PairRecordIndex.getV4], fun stored held => ?_⟩
  apply above stored
  unfold published at held
  rw [← owned] at held
  exact held

theorem Traced.deliver (traced : account.Traced env) (length : Nat) (allowed : Bool)
    (here : account.calls[index]? = some call)
    (alone : (∀ stored ∈ account.published env, stored.revision < call.record.revision) →
      ∀ owner ∈ account.owner, owner = call.device) :
    (account.deliver call (postPairRecordV4 env.relay account.relay
      ⟨length, some call.record⟩ allowed)).Traced env := by
  unfold Account.deliver
  split
  · rename_i relay outcome
    obtain ⟨stored, newer⟩ := published_of_accepted (traced.owned index call here) outcome
    refine ⟨traced.owned, traced.cached, traced.chained, traced.finished, ?_⟩
    intro i other record there done
    obtain ⟨j, last, le, found, device, owner, held⟩ := traced.accepted i other record there done
    have own : other.device = call.device := alone newer other.device owner
    refine ⟨index, call, ?_, here, own.symm, by rw [own], stored⟩
    by_contra before
    have back := (traced.chained index j call last here found (by omega) (by
      rw [device, own])).1
    have := newer last.record held
    omega
  · exact traced

theorem calls_deliver (account : Account Device) (call : PublishCall Device)
    (answer : Except PairRecordHttpError ServerState) :
    (account.deliver call answer).calls = account.calls := by
  unfold Account.deliver
  split <;> rfl

theorem Traced.post [DecidableEq Device] (traced : account.Traced env)
    (alone : account.NoSibling env (.post index length allowed heard)) :
    (step env account (.post index length allowed heard)).Traced env := by
  simp only [step]
  split
  · rename_i call here running
    have delivered := traced.deliver length allowed here (alone call here)
    split
    · refine delivered.finish (by rwa [calls_deliver]) fun success => ?_
      obtain ⟨relay, outcome⟩ := postOutcome_respond_accepted.mp success
      have stored := (published_of_accepted (traced.owned index call here) outcome).1
      rw [outcome]
      exact ⟨rfl, stored⟩
    · exact delivered
  · exact traced

theorem step_traced [DecidableEq Device] (traced : account.Traced env)
    (alone : account.NoSibling env event) :
    (step env account event).Traced env := by
  cases event with
  | mint device op issuedAtMs => exact traced.mint device op issuedAtMs
  | post index length allowed heard => exact traced.post alone
  | giveUp index error =>
    simp only [step]
    split
    · rename_i call here running
      exact traced.finish here fun success => nomatch success
    · exact traced

/-- Along every run in which the relay takes records of one device only, each call that was
reported successful has its effect in the relay's record, unless a later call undid it. -/
theorem published_list_keeps_reported [DecidableEq Device] (env : AccountEnv)
    (initial : PairRecordV4) (relay : ServerState) (events : List (Event Device))
    (alone : Meets (step env) (NoSibling env) (start initial relay) events)
    (i : Nat) (call : PublishCall Device) (record : PairRecordV4)
    (here : (run (step env) (start initial relay) events).calls[i]? = some call)
    (reported : (run (step env) (start initial relay) events).results i = some (.ok record)) :
    ∃ final, (run (step env) (start initial relay) events).published env = some final ∧
      Stands (run (step env) (start initial relay) events).calls i call final.devices := by
  have traced := run_invariant (Traced env) (fun _ _ => step_traced) events
    (start initial relay) (start_traced env initial relay) alone
  obtain ⟨j, last, le, found, device, _, stored⟩ := traced.accepted i call record here reported
  exact ⟨last.record, stored, (traced.chained i j call last here found le device.symm).2⟩

def openAccount : AccountEnv where
  user := ⟨[], fun _ => .ok []⟩
  url := "https://relay"
  relay := { acceptAll with
    verifier := { acceptAllVerifier with
      crypto := { acceptAllVerifier.crypto with
        sha256 := fun bytes => Vector.replicate 32 (bytes.getLastD 0) } } }

def deviceCert (key : UInt8) : AgentCertificate :=
  ⟨hexId (Vector.replicate 32 key), Base64.encode [key], "", 0, []⟩

def listedDevice (key : UInt8) : DeviceEntryV4 :=
  deviceEntryFromCert (deviceCert key) ["https://relay"]

def accountRecord (revision issuedAtMs : Nat) (others : List UInt8) : PairRecordV4 :=
  ⟨recordVersionV4, openAccount.userIdHex, "", revision, issuedAtMs,
    { listedDevice 0 with primary := true } :: others.map listedDevice, ""⟩

def twoEnrolments : List (Event Bool) :=
  [.mint false (.append (deviceCert 1) []) 1, .mint true (.append (deviceCert 2) []) 1,
    .post 0 100 true true, .post 1 100 true true]

theorem published_list_keeps_first_enrolment :
    ∃ final, (run (step openAccount) (start (accountRecord 1 0 []) ServerState.empty)
      twoEnrolments).published openAccount = some final ∧
      Stands (run (step openAccount) (start (accountRecord 1 0 []) ServerState.empty)
        twoEnrolments).calls 0 ⟨false, .append (deviceCert 1) [], accountRecord 2 1 [1]⟩
        final.devices :=
  published_list_keeps_reported openAccount (accountRecord 1 0 []) ServerState.empty
    twoEnrolments (by decide +kernel) 0
    ⟨false, .append (deviceCert 1) [], accountRecord 2 1 [1]⟩ (accountRecord 2 1 [1])
    (by decide +kernel) (by decide +kernel)

/-- The refused device runs its enrolment again from its own cache: the relay accepts the list
without the first device's enrolment, which was reported successful and never revoked. -/
theorem rerun_drops_sibling_enrolment :
    let account := run (step openAccount) (start (accountRecord 1 0 []) ServerState.empty)
      (twoEnrolments ++ [Event.mint true (.append (deviceCert 2) []) 2, .post 2 100 true true])
    account.results 0 = some (.ok (accountRecord 2 1 [1])) ∧
    account.calls.map (·.op) = [.append (deviceCert 1) [], .append (deviceCert 2) [],
      .append (deviceCert 2) []] ∧
    account.published openAccount = some (accountRecord 3 2 [2]) := by
  decide +kernel

end Account

end Fetchit.Chat
