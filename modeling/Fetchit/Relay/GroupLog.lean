import Mathlib.Algebra.BigOperators.Group.List.Basic
import Mathlib.Algebra.Order.Ring.Nat
import Mathlib.Data.List.AList
import Fetchit.Proto.Envelope

/-! The relay's group log. Every record of a group gets the next number of one sequence; a
fetch is served the records after a number, without those addressed to another agent, in
frames of bounded size. -/
namespace Fetchit.Relay
open Lib Proto.Identity Proto.Envelope

inductive LogRecordKind where
  | commit
  | joinResult
  deriving DecidableEq

structure StoredLogRecord where
  seq : Nat
  kind : LogRecordKind
  recipient : Option AgentId
  payload : Bytes
  author : Option AgentId
  insertedAtMs : Nat
  deriving DecidableEq

structure LogRecordWire where
  seq : Nat
  kind : LogRecordKind
  recipient : Option AgentId
  payload : Bytes
  author : Option AgentId
  insertedAtMs : Nat
  deriving DecidableEq

structure LogAppend where
  groupId : GroupId
  kind : LogRecordKind
  recipient : Option AgentId
  payload : Bytes
  deriving DecidableEq

structure LogFetch where
  groupId : GroupId
  sinceSeq : Nat
  deriving DecidableEq

structure LogRecords where
  groupId : GroupId
  records : List LogRecordWire
  done : Bool
  deriving DecidableEq

structure GroupSlot where
  nextSeq : Nat
  records : List StoredLogRecord

def recordFixedOverhead : Nat := 64

def recordSize (payloadLen : Nat) : Nat := recordFixedOverhead + payloadLen

def storedSize (records : List StoredLogRecord) : Nat :=
  (records.map fun record => recordSize record.payload.length).sum

structure RamGroupLog where
  groups : AList fun _ : GroupId => GroupSlot
  windowMs : Nat
  perGroupCap : Nat
  maxTotalBytes : Nat
  totalBytes : Nat
  cap_fits : perGroupCap < 2 ^ 64

inductive GroupLogError where
  | groupLogFull
  deriving DecidableEq

namespace RamGroupLog

def new (windowMs perGroupCap maxTotalBytes : Nat) (cap_fits : perGroupCap < 2 ^ 64) :
    RamGroupLog :=
  ⟨∅, windowMs, perGroupCap, maxTotalBytes, 0, cap_fits⟩

def bump (seq : Nat) : Nat := if seq + 1 < 2 ^ 64 then seq + 1 else seq

def append (log : RamGroupLog) (group : GroupId) (kind : LogRecordKind)
    (recipient : Option AgentId) (payload : Bytes) (author : AgentId) (nowMs : Nat) :
    Except GroupLogError (Nat × RamGroupLog) :=
  let reserved := log.totalBytes + recordSize payload.length
  if reserved > log.maxTotalBytes then .error .groupLogFull
  else
    let slot := (log.groups.lookup group).getD ⟨1, []⟩
    let overflow := slot.records.length + 1 - log.perGroupCap
    let record : StoredLogRecord := ⟨slot.nextSeq, kind, recipient, payload, some author, nowMs⟩
    .ok (slot.nextSeq, { log with
      groups := log.groups.insert group
        ⟨bump slot.nextSeq, slot.records.drop overflow ++ [record]⟩
      totalBytes := reserved - storedSize (slot.records.take overflow) })

def fetchSince (log : RamGroupLog) (group : GroupId) (sinceSeq : Nat) : List StoredLogRecord :=
  ((log.groups.lookup group).map fun slot => slot.records.filter (·.seq > sinceSeq)).getD []

end RamGroupLog

inductive ThrottleReason where
  | envelopeTooLarge
  | perSenderRate
  | perRecipientCapacity
  deriving DecidableEq

structure Throttle where
  retryAfterMs : Nat
  reason : ThrottleReason
  deriving DecidableEq

/-- A deposit as the relay meets it: who sent it, the session's size cap, the rate limiter's
answer and the clock. -/
structure Deposit where
  agentId : AgentId
  maxEnvelopeBytes : Nat
  allowed : Bool
  nowMs : Nat
  append : LogAppend

def handleLogAppend (log : RamGroupLog) (deposit : Deposit) : Option Throttle × RamGroupLog :=
  let append := deposit.append
  if append.payload.length > deposit.maxEnvelopeBytes then
    (some ⟨0, .envelopeTooLarge⟩, log)
  else if !deposit.allowed then (some ⟨1000, .perSenderRate⟩, log)
  else
    match log.append append.groupId append.kind append.recipient append.payload deposit.agentId
      deposit.nowMs with
    | .error _ => (some ⟨5000, .perRecipientCapacity⟩, log)
    | .ok stored => (none, stored.2)

def servedTo (agentId : AgentId) (recipient : Option AgentId) : Bool :=
  recipient.isNone || recipient == some agentId

def StoredLogRecord.toWire (record : StoredLogRecord) : LogRecordWire :=
  ⟨record.seq, record.kind, record.recipient, record.payload, record.author,
    record.insertedAtMs⟩

def fetchedRecords (log : RamGroupLog) (agentId : AgentId) (fetch : LogFetch) :
    List LogRecordWire :=
  ((log.fetchSince fetch.groupId fetch.sinceSeq).filter fun record =>
    servedTo agentId record.recipient).map StoredLogRecord.toWire

def logRecordsChunk : Nat := 64

def logRecordFrames (groupId : GroupId) (records : List LogRecordWire) : List LogRecords :=
  if records.length > logRecordsChunk then
    ⟨groupId, records.take logRecordsChunk, false⟩ ::
      logRecordFrames groupId (records.drop logRecordsChunk)
  else [⟨groupId, records, true⟩]
termination_by records.length
decreasing_by
  rename_i long
  rw [List.length_drop]
  simp only [logRecordsChunk] at long ⊢
  omega

def handleLogFetch (log : RamGroupLog) (agentId : AgentId) (fetch : LogFetch) (room : Nat) :
    List LogRecords :=
  (logRecordFrames fetch.groupId (fetchedRecords log agentId fetch)).take room

def collectFrames : List LogRecords → Option (List LogRecordWire)
  | [] => none
  | frame :: rest =>
    if frame.done then some frame.records
    else (collectFrames rest).map fun records => frame.records ++ records

theorem collectFrames_logRecordFrames (groupId : GroupId) (records : List LogRecordWire) :
    collectFrames (logRecordFrames groupId records) = some records := by
  induction records using logRecordFrames.induct with
  | case1 records long ih =>
    rw [logRecordFrames, if_pos long]
    simp [collectFrames, ih]
  | case2 records short =>
    rw [logRecordFrames, if_neg short]
    simp [collectFrames]

theorem groupId_of_mem_logRecordFrames (mem : frame ∈ logRecordFrames groupId records) :
    frame.groupId = groupId := by
  induction records using logRecordFrames.induct with
  | case1 records long ih =>
    rw [logRecordFrames, if_pos long] at mem
    rcases List.mem_cons.mp mem with rfl | later
    · rfl
    · exact ih later
  | case2 records short =>
    rw [logRecordFrames, if_neg short] at mem
    rw [List.mem_singleton.mp mem]

theorem collectFrames_append
    (unmarked : ∀ frame ∈ first, frame.done = false) (rest : List LogRecords) :
    collectFrames (first ++ rest) =
      (collectFrames rest).map fun records => first.flatMap (·.records) ++ records := by
  induction first with
  | nil => simp
  | cons frame first ih =>
    have here := unmarked frame List.mem_cons_self
    simp only [List.cons_append, collectFrames, here]
    rw [ih fun other mem => unmarked other (List.mem_cons_of_mem _ mem)]
    simp [Function.comp_def]

def depositAll (log : RamGroupLog) (deposits : List Deposit) : RamGroupLog :=
  deposits.foldl (fun log deposit => (handleLogAppend log deposit).2) log

theorem depositAll_cons (log : RamGroupLog) (deposit : Deposit) (rest : List Deposit) :
    depositAll log (deposit :: rest) = depositAll (handleLogAppend log deposit).2 rest := rfl

def storedDeposits (group : GroupId) : RamGroupLog → List Deposit → List Deposit
  | _, [] => []
  | log, deposit :: rest =>
    let outcome := handleLogAppend log deposit
    if outcome.1.isNone && deposit.append.groupId == group then
      deposit :: storedDeposits group outcome.2 rest
    else storedDeposits group outcome.2 rest

def Deposit.stored (deposit : Deposit) (seq : Nat) : StoredLogRecord :=
  ⟨seq, deposit.append.kind, deposit.append.recipient, deposit.append.payload,
    some deposit.agentId, deposit.nowMs⟩

def numbered (start : Nat) : List Deposit → List StoredLogRecord
  | [] => []
  | deposit :: rest => deposit.stored (start + 1) :: numbered (start + 1) rest

theorem numbered_append (start : Nat) (first second : List Deposit) :
    numbered start (first ++ second) =
      numbered start first ++ numbered (start + first.length) second := by
  induction first generalizing start with
  | nil => simp [numbered]
  | cons deposit rest ih =>
    simp only [List.cons_append, numbered, ih, List.length_cons]
    rw [show start + 1 + rest.length = start + (rest.length + 1) by omega]

@[simp] theorem length_numbered (start : Nat) (deposits : List Deposit) :
    (numbered start deposits).length = deposits.length := by
  induction deposits generalizing start with
  | nil => rfl
  | cons deposit rest ih => simp [numbered, ih]

theorem lt_seq_of_mem_numbered (mem : record ∈ numbered start deposits) : start < record.seq := by
  induction deposits generalizing start with
  | nil => cases mem
  | cons deposit rest ih =>
    rcases List.mem_cons.mp mem with rfl | later
    · simp [Deposit.stored]
    · have := ih later
      omega

theorem filter_numbered (start skip : Nat) (deposits : List Deposit) :
    (numbered start deposits).filter (·.seq > start + skip) =
      numbered (start + skip) (deposits.drop skip) := by
  induction deposits generalizing start skip with
  | nil => simp [numbered]
  | cons deposit rest ih =>
    cases skip with
    | zero =>
      apply List.filter_eq_self.mpr
      intro record mem
      have := lt_seq_of_mem_numbered mem
      simpa using this
    | succ skip =>
      rw [numbered, List.filter_cons_of_neg (by simp [Deposit.stored])]
      have shifted := ih (start + 1) skip
      rw [show start + 1 + skip = start + (skip + 1) by omega] at shifted
      exact shifted

/-- What a deposit does: it is turned away, or it is stored under the next number of its
group. -/
inductive AppendSpec (log : RamGroupLog) (deposit : Deposit) : Option Throttle × RamGroupLog → Prop
  | refused (throttle : Throttle) : AppendSpec log deposit (some throttle, log)
  | stored (slot : GroupSlot) (totalBytes : Nat)
      (held : (log.groups.lookup deposit.append.groupId).getD ⟨1, []⟩ = slot) :
      AppendSpec log deposit (none, { log with
        groups := log.groups.insert deposit.append.groupId
          ⟨RamGroupLog.bump slot.nextSeq,
            slot.records.drop (slot.records.length + 1 - log.perGroupCap) ++
              [deposit.stored slot.nextSeq]⟩
        totalBytes := totalBytes })

theorem handleLogAppend_spec (log : RamGroupLog) (deposit : Deposit) :
    AppendSpec log deposit (handleLogAppend log deposit) := by
  simp only [handleLogAppend]
  split
  · exact .refused _
  · split
    · exact .refused _
    · unfold RamGroupLog.append
      by_cases full : log.totalBytes + recordSize deposit.append.payload.length >
          log.maxTotalBytes
      · simp only [if_pos full]
        exact .refused _
      · simp only [if_neg full]
        exact .stored _ _ rfl

def Holds (log : RamGroupLog) (group : GroupId) (deposits : List Deposit) : Prop :=
  ((log.groups.lookup group).getD ⟨1, []⟩).records = numbered 0 deposits ∧
    (deposits.length < log.perGroupCap →
      ((log.groups.lookup group).getD ⟨1, []⟩).nextSeq = deposits.length + 1)

theorem Holds.store (holds : Holds log group earlier) (here : deposit.append.groupId = group)
    (room : earlier.length < log.perGroupCap) (held : (log.groups.lookup group).getD ⟨1, []⟩ = slot)
    (totalBytes : Nat) :
    Holds { log with
      groups := log.groups.insert deposit.append.groupId
        ⟨RamGroupLog.bump slot.nextSeq,
          slot.records.drop (slot.records.length + 1 - log.perGroupCap) ++
            [deposit.stored slot.nextSeq]⟩
      totalBytes := totalBytes } group (earlier ++ [deposit]) := by
  subst here
  obtain ⟨records, next⟩ := holds
  rw [held] at records next
  have fits := log.cap_fits
  have nextSeq := next room
  have none_dropped : slot.records.length + 1 - log.perGroupCap = 0 := by
    rw [records, length_numbered]
    omega
  constructor
  · simp only [none_dropped]
    rw [records, nextSeq, numbered_append]
    simp [numbered]
  · intro more
    simp only [List.length_append, List.length_cons] at more
    simp only [AList.lookup_insert, Option.getD_some, nextSeq, RamGroupLog.bump,
      List.length_append, List.length_cons, List.length_nil]
    rw [if_pos (by omega)]

theorem holds_depositAll (group : GroupId) (deposits : List Deposit) :
    ∀ (log : RamGroupLog) (earlier : List Deposit), Holds log group earlier →
      earlier.length + (storedDeposits group log deposits).length ≤ log.perGroupCap →
      Holds (depositAll log deposits) group (earlier ++ storedDeposits group log deposits) := by
  induction deposits with
  | nil =>
    intro log earlier holds _
    simpa [storedDeposits, depositAll] using holds
  | cons deposit rest ih =>
    intro log earlier holds room
    have spec := handleLogAppend_spec log deposit
    simp only [storedDeposits] at room ⊢
    rw [depositAll_cons]
    generalize handleLogAppend log deposit = outcome at spec room ⊢
    cases spec with
    | refused throttle =>
      exact ih log earlier holds room
    | stored slot totalBytes held =>
      by_cases here : deposit.append.groupId = group
      · simp only [here, Option.isNone_none, Bool.true_and, beq_self_eq_true, if_true,
          List.length_cons] at room ⊢
        rw [here] at held
        have stored := holds.store here (by omega) held totalBytes
        rw [here] at stored
        have all := ih _ (earlier ++ [deposit]) stored (by
          simp only [List.length_append, List.length_cons, List.length_nil]
          omega)
        simpa using all
      · have other : (deposit.append.groupId == group) = false := by simpa using here
        simp only [other] at room ⊢
        apply ih _ earlier _ room
        have away : group ≠ deposit.append.groupId := fun same => here same.symm
        simpa [Holds, AList.lookup_insert_ne away] using holds

theorem holds_new {windowMs cap maxTotalBytes : Nat} (fits : cap < 2 ^ 64) (group : GroupId) :
    Holds (.new windowMs cap maxTotalBytes fits) group [] := by
  simp [Holds, RamGroupLog.new, numbered]

def zeroGroupDeposit (kind : LogRecordKind) (recipient : Option AgentId) : Deposit :=
  ⟨Vector.replicate 32 9, 1000, true, 0, ⟨Vector.replicate 32 0, kind, recipient, [7]⟩⟩

end Fetchit.Relay
