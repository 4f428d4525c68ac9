import Fetchit.Chat.Types
import Fetchit.Relay.GroupLog

/-! Catching up with a group from the relay's log. The relay numbers all records of a group in
one sequence and serves a member only those it may read; the member applies them in order and
stops at the first missing number. -/
namespace Fetchit.Chat
open Lib Proto.Identity Proto.Envelope Relay

inductive CommitRecordKind where
  | commit
  | joinResult
  deriving DecidableEq

structure CommitRecord where
  seq : Nat
  kind : CommitRecordKind
  payloadB64 : String
  authorAgentIdHex : Option String
  deriving DecidableEq

def commitRecordFromWire (wire : LogRecordWire) : CommitRecord where
  seq := wire.seq
  kind :=
    match wire.kind with
    | .commit => .commit
    | .joinResult => .joinResult
  payloadB64 := Base64.encode wire.payload
  authorAgentIdHex := wire.author.map hexId

inductive ApplyOutcome where
  | applied
  | alreadyApplied
  deriving DecidableEq

structure ApplyLoopResult where
  cursor : Nat
  applied : Nat
  skipped : Nat
  stoppedOnGap : Bool
  deriving DecidableEq

section
variable {World : Type}

abbrev CommitApplier (World : Type) :=
  World → CommitRecord → Except ChatError ApplyOutcome × World

def applyLoop (apply : CommitApplier World) (cursor applied skipped : Nat) :
    List CommitRecord → World → Except ChatError ApplyLoopResult × World
  | [], world => (.ok ⟨cursor, applied, skipped, false⟩, world)
  | record :: rest, world =>
    if record.seq ≤ cursor then applyLoop apply cursor applied (skipped + 1) rest world
    else if record.seq > cursor + 1 then (.ok ⟨cursor, applied, skipped, true⟩, world)
    else
      match apply world record with
      | (.ok .applied, next) => applyLoop apply record.seq (applied + 1) skipped rest next
      | (.ok .alreadyApplied, next) => applyLoop apply record.seq applied skipped rest next
      | (.error error, next) => (.error error, next)

def applyRecordsInOrder (apply : CommitApplier World) (startSeq : Nat)
    (records : List CommitRecord) (world : World) : Except ChatError ApplyLoopResult × World :=
  applyLoop apply startSeq 0 0 records world

def traced (apply : CommitApplier World) : CommitApplier (World × List CommitRecord) :=
  fun world record =>
    let outcome := apply world.1 record
    (outcome.1, outcome.2, world.2 ++ [record])

/-- The member's cursor, the world, and the records that were applied. -/
structure Progress (World : Type) where
  cursor : Nat
  world : World
  handed : List CommitRecord

def pass (apply : CommitApplier World) (log : RamGroupLog) (member : AgentId) (group : GroupId)
    (progress : Progress World) : Progress World :=
  let records := ((collectFrames (logRecordFrames group
    (fetchedRecords log member ⟨group, progress.cursor⟩))).getD []).map commitRecordFromWire
  match applyRecordsInOrder (traced apply) progress.cursor records
    (progress.world, progress.handed) with
  | (.ok result, world) => ⟨result.cursor, world.1, world.2⟩
  | (.error _, world) => ⟨progress.cursor, world.1, world.2⟩

def passes (apply : CommitApplier World) (log : RamGroupLog) (member : AgentId)
    (group : GroupId) (world : World) (count : Nat) : Progress World :=
  (pass apply log member group)^[count] ⟨0, world, []⟩

/-- The records that carry on from the cursor, each number once, up to the first gap. -/
def nextRun (cursor : Nat) : List CommitRecord → List CommitRecord
  | [] => []
  | record :: rest =>
    if record.seq ≤ cursor then nextRun cursor rest
    else if record.seq > cursor + 1 then []
    else record :: nextRun record.seq rest

/-- Hand records to the applier one by one, up to and including the first that fails. -/
def handOver (apply : CommitApplier World) :
    List CommitRecord → World → List ApplyOutcome × Option ChatError × World
  | [], world => ([], none, world)
  | record :: rest, world =>
    match apply world record with
    | (.ok outcome, next) =>
      let later := handOver apply rest next
      (outcome :: later.1, later.2)
    | (.error error, next) => ([], some error, next)

theorem nextRun_spec (cursor : Nat) (records : List CommitRecord) :
    (nextRun cursor records).Sublist records ∧ (nextRun cursor records).map (·.seq) =
      List.range' (cursor + 1) (nextRun cursor records).length := by
  fun_induction nextRun cursor records with
  | case1 => simp
  | case2 cursor record rest behind ih => exact ⟨ih.1.cons _, ih.2⟩
  | case3 => simp
  | case4 cursor record rest ahead near ih =>
    have next : record.seq = cursor + 1 := by omega
    refine ⟨ih.1.cons_cons _, ?_⟩
    rw [List.map_cons, ih.2, List.length_cons, List.range'_succ, next]

/-- Where a run that ends at `last` leaves the records: no next one, this many behind its end, and
a gap if there are later ones. -/
structure Exhausted (records : List CommitRecord) (last behind : Nat) (gap : Bool) : Prop where
  maximal : ∀ record ∈ records, record.seq ≠ last + 1
  behind : records.countP (·.seq ≤ last) = behind
  gap : gap = true ↔ ∃ record ∈ records, last < record.seq

theorem Exhausted.cons {gap : Bool} (exhausted : Exhausted records last count gap)
    (behind : record.seq ≤ last) : Exhausted (record :: records) last (count + 1) gap where
  maximal := List.forall_mem_cons.mpr ⟨by omega, exhausted.maximal⟩
  behind := by rw [List.countP_cons_of_pos (by simpa using behind), exhausted.behind]
  gap := by simp [exhausted.gap, Nat.not_lt.mpr behind]

theorem exhausted_of_gap (ascending : (record :: rest).Pairwise (·.seq ≤ ·.seq))
    (missing : record.seq > cursor + 1) : Exhausted (record :: rest) cursor 0 true := by
  have above : ∀ other ∈ record :: rest, cursor + 1 < other.seq :=
    List.forall_mem_cons.mpr ⟨missing, fun other mem =>
      missing.trans_le ((List.pairwise_cons.mp ascending).1 other mem)⟩
  constructor
  · intro other mem
    exact (above other mem).ne'
  · rw [List.countP_eq_zero]
    intro other mem
    have := above other mem
    simp
    omega
  · exact iff_of_true rfl ⟨record, List.mem_cons_self, by omega⟩

theorem applyLoop_eq (apply : CommitApplier World) (records : List CommitRecord) :
    ∀ cursor applied skipped world, ∃ more gap,
      let run := nextRun cursor records
      let handed := handOver apply run world
      applyLoop apply cursor applied skipped records world =
        (match handed.2.1 with
          | some error => .error error
          | none => .ok ⟨cursor + run.length, applied + handed.1.count .applied, skipped + more,
              gap⟩, handed.2.2) ∧
      (records.Pairwise (·.seq ≤ ·.seq) →
        Exhausted records (cursor + run.length) (more + run.length) gap) := by
  induction records with
  | nil =>
    intro cursor applied skipped world
    refine ⟨0, false, rfl, fun _ => ?_⟩
    constructor <;> simp [nextRun]
  | cons record rest ih =>
    intro cursor applied skipped world
    unfold applyLoop nextRun
    split
    · obtain ⟨more, gap, loop, exhausted⟩ := ih cursor applied (skipped + 1) world
      refine ⟨more + 1, gap, ?_, fun ascending => ?_⟩
      · rw [loop, Nat.add_right_comm, Nat.add_assoc]
      · rw [Nat.add_right_comm]
        exact (exhausted (List.pairwise_cons.mp ascending).2).cons (by omega)
    split
    · exact ⟨0, true, rfl, fun ascending => exhausted_of_gap ascending ‹_›⟩
    · have next : record.seq = cursor + 1 := by omega
      have longer {more gap} (exhausted : rest.Pairwise (·.seq ≤ ·.seq) →
          Exhausted rest (record.seq + (nextRun record.seq rest).length)
            (more + (nextRun record.seq rest).length) gap)
          (ascending : (record :: rest).Pairwise (·.seq ≤ ·.seq)) :
          Exhausted (record :: rest) (cursor + ((nextRun record.seq rest).length + 1))
            (more + ((nextRun record.seq rest).length + 1)) gap := by
        rw [← Nat.add_assoc, Nat.add_right_comm, ← next]
        exact (exhausted (List.pairwise_cons.mp ascending).2).cons (by omega)
      simp only [handOver]
      rcases apply world record with ⟨error | outcome, after⟩
      · obtain ⟨more, gap, _, exhausted⟩ := ih record.seq applied skipped after
        exact ⟨more, gap, rfl, longer exhausted⟩
      · obtain ⟨more, gap, loop, exhausted⟩ := ih record.seq
          (applied + [outcome].count .applied) skipped after
        refine ⟨more, gap, ?_, longer exhausted⟩
        cases outcome <;> simp at loop ⊢ <;> rw [loop] <;> simp [next, Nat.add_assoc, Nat.add_comm]

/-- Over records in ascending order the applier is handed the maximal run of consecutive numbers
after the cursor, up to and including the first that fails, and the result tells exactly how that
went. -/
theorem applies_maximal_run {World : Type} (apply : CommitApplier World) (startSeq : Nat)
    (records : List CommitRecord) (ascending : records.Pairwise (·.seq ≤ ·.seq)) (world : World) :
    let run := nextRun startSeq records
    let handed := handOver apply run world
    run.Sublist records ∧ run.map (·.seq) = List.range' (startSeq + 1) run.length ∧
      (∀ record ∈ records, record.seq ≠ startSeq + run.length + 1) ∧
      match handed.2.1 with
      | some error =>
        applyRecordsInOrder apply startSeq records world = (.error error, handed.2.2)
      | none => ∃ result, applyRecordsInOrder apply startSeq records world =
            (.ok result, handed.2.2) ∧
          result.cursor = startSeq + run.length ∧ result.applied = handed.1.count .applied ∧
          result.skipped + run.length = records.countP (·.seq ≤ result.cursor) ∧
          (result.stoppedOnGap = true ↔ ∃ record ∈ records, result.cursor < record.seq) := by
  obtain ⟨more, gap, loop, exhausted⟩ := applyLoop_eq apply records startSeq 0 0 world
  have stopped := exhausted ascending
  have spec := nextRun_spec startSeq records
  rw [applyRecordsInOrder, loop]
  refine ⟨spec.1, spec.2, stopped.maximal, ?_⟩
  generalize handOver apply (nextRun startSeq records) world = handed
  rcases handed with ⟨outcomes, _ | error, after⟩
  · exact ⟨_, rfl, rfl, Nat.zero_add _, by simp [stopped.behind], stopped.gap⟩
  · rfl

end

def readable (member : AgentId) (deposit : Deposit) : Bool :=
  servedTo member deposit.append.recipient

def commitRecords (start : Nat) (deposits : List Deposit) : List CommitRecord :=
  (numbered start deposits).map fun record => commitRecordFromWire record.toWire

def served (member : AgentId) (start : Nat) (deposits : List Deposit) : List CommitRecord :=
  ((numbered start deposits).filter fun record => servedTo member record.recipient).map
    fun record => commitRecordFromWire record.toWire

theorem served_cons (member : AgentId) (start : Nat) (deposit : Deposit) (rest : List Deposit) :
    served member start (deposit :: rest) =
      if readable member deposit then
        commitRecordFromWire (deposit.stored (start + 1)).toWire :: served member (start + 1) rest
      else served member (start + 1) rest := by
  unfold served readable
  rw [numbered]
  by_cases visible : servedTo member deposit.append.recipient = true
  · simp [visible, Deposit.stored]
  · simp [visible, Deposit.stored]

variable {deposits : List Deposit}

theorem lt_seq_of_mem_served (mem : record ∈ served member start deposits) :
    start < record.seq := by
  obtain ⟨stored, found, rfl⟩ := List.mem_map.mp mem
  exact lt_seq_of_mem_numbered (List.mem_filter.mp found).1

theorem fetchedRecords_eq (holds : Holds log group deposits) (member : AgentId) (cursor : Nat) :
    (fetchedRecords log member ⟨group, cursor⟩).map commitRecordFromWire =
      served member cursor (deposits.drop cursor) := by
  have fetched : log.fetchSince group cursor = numbered cursor (deposits.drop cursor) := by
    have kept := filter_numbered 0 cursor deposits
    rw [Nat.zero_add, ← holds.1] at kept
    rw [← kept]
    unfold RamGroupLog.fetchSince
    cases log.groups.lookup group <;> rfl
  unfold fetchedRecords served
  rw [fetched, List.map_map]
  rfl

section
variable {World : Type} {apply : CommitApplier World}

theorem nextRun_served (member : AgentId) (deposits : List Deposit) (cursor : Nat) :
    nextRun cursor (served member cursor deposits) =
      commitRecords cursor (deposits.takeWhile (readable member)) := by
  induction deposits generalizing cursor with
  | nil => rfl
  | cons deposit rest ih =>
    rw [served_cons]
    by_cases visible : readable member deposit = true
    · rw [if_pos visible, List.takeWhile_cons_of_pos visible, nextRun, if_neg, if_neg]
      · exact congrArg _ (ih (cursor + 1))
      · exact Nat.lt_irrefl _
      · exact Nat.not_succ_le_self _
    · rw [if_neg visible, List.takeWhile_cons_of_neg visible]
      cases found : served member (cursor + 1) rest with
      | nil => rfl
      | cons record later =>
        have beyond := lt_seq_of_mem_served (found ▸ List.mem_cons_self : record ∈ _)
        rw [nextRun, if_neg (by omega), if_pos beyond]
        rfl

theorem handOver_traced (total : ∀ world record, ∃ outcome, (apply world record).1 = .ok outcome)
    (records : List CommitRecord) :
    ∀ world handed, ∃ outcomes world', handOver (traced apply) records (world, handed) =
      (outcomes, none, world', handed ++ records) := by
  induction records with
  | nil =>
    intro world handed
    exact ⟨[], world, by simp [handOver]⟩
  | cons record rest ih =>
    intro world handed
    obtain ⟨outcome, reported⟩ := total world record
    obtain ⟨outcomes, last, later⟩ := ih (apply world record).2 (handed ++ [record])
    exact ⟨outcome :: outcomes, last, by simp [handOver, traced, reported, later]⟩

theorem pass_eq (holds : Holds log group deposits)
    (total : ∀ world record, ∃ outcome, (apply world record).1 = .ok outcome) (member : AgentId)
    (progress : Progress World) :
    let readable := (deposits.drop progress.cursor).takeWhile (readable member)
    ∃ world, pass apply log member group progress =
      ⟨progress.cursor + readable.length, world,
        progress.handed ++ commitRecords progress.cursor readable⟩ := by
  obtain ⟨more, gap, loop, _⟩ := applyLoop_eq (traced apply)
    (served member progress.cursor (deposits.drop progress.cursor)) progress.cursor 0 0
    (progress.world, progress.handed)
  obtain ⟨outcomes, world, handed⟩ := handOver_traced total (commitRecords progress.cursor
    ((deposits.drop progress.cursor).takeWhile (readable member))) progress.world progress.handed
  simp only [pass, collectFrames_logRecordFrames, Option.getD_some, fetchedRecords_eq holds,
    applyRecordsInOrder, loop, nextRun_served, handed]
  simp [commitRecords]

end

theorem takeWhile_drop_takeWhile {Item : Type} (keep : Item → Bool) (items : List Item) :
    (items.drop (items.takeWhile keep).length).takeWhile keep = [] := by
  induction items with
  | nil => rfl
  | cons item rest ih =>
    by_cases kept : keep item = true
    · simpa [List.takeWhile_cons_of_pos kept] using ih
    · simp [List.takeWhile_cons_of_neg kept]

theorem passes_succ {apply : CommitApplier World} (holds : Holds log group deposits)
    (total : ∀ world record, ∃ outcome, (apply world record).1 = .ok outcome) (member : AgentId)
    (world : World) (count : Nat) :
    let readable := deposits.takeWhile (readable member)
    (passes apply log member group world (count + 1)).cursor = readable.length ∧
      (passes apply log member group world (count + 1)).handed = commitRecords 0 readable := by
  intro front
  unfold passes
  rw [Function.iterate_succ_apply']
  induction count with
  | zero =>
    obtain ⟨next, here⟩ := pass_eq holds total member ⟨0, world, []⟩
    rw [Function.iterate_zero_apply, here]
    simp [front]
  | succ count ih =>
    rw [Function.iterate_succ_apply']
    obtain ⟨next, here⟩ := pass_eq holds total member
      (pass apply log member group ((pass apply log member group)^[count] ⟨0, world, []⟩))
    rw [here, ih.1, ih.2, takeWhile_drop_takeWhile]
    simp [commitRecords, numbered]

/-- The member has applied every commit of the deposits once, in order, and stands at or after
the last of them. -/
def CaughtUp {World : Type} (deposits : List Deposit) (progress : Progress World) : Prop :=
  (∀ (j : Nat) commit, deposits[j]? = some commit → commit.append.kind = .commit →
    j + 1 ≤ progress.cursor) ∧
  progress.handed.filter (fun record => record.kind = .commit) =
    (commitRecords 0 deposits).filter fun record => record.kind = .commit

theorem lt_length_takeWhile {Item : Type} {keep : Item → Bool} {items : List Item} :
    j < (items.takeWhile keep).length ↔
      j < items.length ∧ ∀ (i : Nat) item, items[i]? = some item → i ≤ j → keep item = true := by
  rw [List.takeWhile_eq_take_findIdx_not, List.length_take_of_le List.findIdx_le_length,
    List.lt_findIdx_iff]
  simp only [Bool.not_eq_false', List.getElem?_eq_some_iff]
  constructor
  · rintro ⟨inside, all⟩
    refine ⟨inside, ?_⟩
    rintro i _ ⟨_, rfl⟩ le
    exact all i le
  · rintro ⟨inside, all⟩
    exact ⟨inside, fun i le => all i _ ⟨by omega, rfl⟩ le⟩

theorem commit_mem_commitRecords
    (mem : record ∈ commitRecords start deposits) (commit : record.kind = .commit) :
    ∃ (j : Nat) (deposit : Deposit), deposits[j]? = some deposit ∧
      deposit.append.kind = .commit := by
  induction deposits generalizing start with
  | nil => cases mem
  | cons deposit rest ih =>
    rcases List.mem_cons.mp mem with rfl | later
    · refine ⟨0, deposit, rfl, ?_⟩
      cases kind : deposit.append.kind with
      | commit => rfl
      | joinResult => simp [commitRecordFromWire, StoredLogRecord.toWire, Deposit.stored, kind] at commit
    · obtain ⟨j, found, here, kind⟩ := ih later
      exact ⟨j + 1, found, here, kind⟩

theorem commits_takeWhile
    (visible : ∀ (i j : Nat) deposit commit, deposits[i]? = some deposit →
      deposits[j]? = some commit → commit.append.kind = .commit → i ≤ j →
      readable member deposit = true) :
    (commitRecords 0 (deposits.takeWhile (readable member))).filter
        (fun record => record.kind = .commit) =
      (commitRecords 0 deposits).filter fun record => record.kind = .commit := by
  have parts := List.takeWhile_append_dropWhile (p := readable member) (l := deposits)
  generalize front : deposits.takeWhile (readable member) = first at parts ⊢
  generalize deposits.dropWhile (readable member) = second at parts
  have split : commitRecords 0 deposits = commitRecords 0 first ++
      commitRecords (0 + first.length) second := by
    unfold commitRecords
    rw [← parts, numbered_append, List.map_append]
  have rest : (commitRecords (0 + first.length) second).filter
      (fun record => record.kind = .commit) = [] := by
    rw [List.filter_eq_nil_iff]
    intro record mem kind
    obtain ⟨j, commit, here, isCommit⟩ := commit_mem_commitRecords mem (of_decide_eq_true kind)
    have there : deposits[first.length + j]? = some commit := by
      rw [← parts, List.getElem?_append_right (by omega)]
      simpa using here
    have inside : first.length + j < first.length := by
      rw [← front]
      apply lt_length_takeWhile.mpr
      refine ⟨?_, fun i deposit found le => ?_⟩
      · rw [front]
        exact (List.getElem?_eq_some_iff.mp there).1
      · rw [front] at le
        exact visible i _ deposit commit found there isCommit le
    omega
  rw [split, List.filter_append, rest, List.append_nil]

/-- Catching up on the deposits of one group succeeds, with an applier that never fails and for
good, exactly when the member may read every deposit up to the last commit. -/
theorem catches_up_iff {World : Type} (apply : CommitApplier World)
    (total : ∀ world record, ∃ outcome, (apply world record).1 = .ok outcome)
    (windowMs cap maxTotalBytes : Nat) (fits : cap < 2 ^ 64) (group : GroupId)
    (attempts : List Deposit) (member : AgentId) (world : World)
    (kept : (storedDeposits group (.new windowMs cap maxTotalBytes fits) attempts).length ≤ cap) :
    let log := RamGroupLog.new windowMs cap maxTotalBytes fits
    let deposits := storedDeposits group log attempts
    (∃ count, ∀ later, count ≤ later →
      CaughtUp deposits (passes apply (depositAll log attempts) member group world later)) ↔
    ∀ (i j : Nat) deposit commit, deposits[i]? = some deposit → deposits[j]? = some commit →
      commit.append.kind = .commit → i ≤ j → readable member deposit = true := by
  intro log deposits
  have holds : Holds (depositAll log attempts) group deposits := by
    have all := holds_depositAll group attempts log [] (holds_new fits group) (by
      rw [List.length_nil, Nat.zero_add]
      exact kept)
    rwa [List.nil_append] at all
  constructor
  · rintro ⟨count, caught⟩ i j deposit commit found there isCommit le
    have reached := (caught (count + 1) (by omega)).1 j commit there isCommit
    rw [(passes_succ holds total member world count).1] at reached
    exact (lt_length_takeWhile.mp (Nat.lt_of_succ_le reached)).2 i deposit found le
  · intro visible
    refine ⟨1, fun later le => ?_⟩
    obtain ⟨count, rfl⟩ : ∃ count, later = count + 1 := ⟨later - 1, by omega⟩
    obtain ⟨cursor, handed⟩ := passes_succ holds total member world count
    constructor
    · intro j commit there isCommit
      rw [cursor]
      apply lt_length_takeWhile.mpr
      exact ⟨(List.getElem?_eq_some_iff.mp there).1, fun i deposit found le =>
        visible i j deposit commit found there isCommit le⟩
    · rw [handed]
      exact commits_takeWhile visible

def alwaysApplied : CommitApplier Unit := fun world _ => (.ok .applied, world)

theorem alwaysApplied_total (world : Unit) (record : CommitRecord) :
    ∃ outcome, (alwaysApplied world record).1 = .ok outcome := ⟨.applied, rfl⟩

/-- A commit, a join result for the member and a commit. -/
theorem catches_up_over_own_join_result :
    let log := RamGroupLog.new 1000 16 10000 (by decide)
    let attempts := [zeroGroupDeposit .commit none,
      zeroGroupDeposit .joinResult (some (Vector.replicate 32 1)), zeroGroupDeposit .commit none]
    ∃ count, ∀ later, count ≤ later → CaughtUp (storedDeposits (Vector.replicate 32 0) log attempts)
      (passes alwaysApplied (depositAll log attempts) (Vector.replicate 32 1)
        (Vector.replicate 32 0) () later) := by
  intro log attempts
  have visible : ∀ deposit ∈ attempts, readable (Vector.replicate 32 1) deposit = true := by
    decide +kernel
  refine (catches_up_iff alwaysApplied alwaysApplied_total 1000 16 10000 (by decide)
    (Vector.replicate 32 0) attempts (Vector.replicate 32 1) () (by decide +kernel)).mpr ?_
  intro i j deposit commit found _ _ _
  exact visible deposit (List.mem_of_getElem? found)

/-- A join result for another agent, followed by a commit: the member never gets past it. -/
theorem foreign_join_result_blocks_catch_up :
    let log := RamGroupLog.new 1000 16 10000 (by decide)
    let attempts := [zeroGroupDeposit .joinResult (some (Vector.replicate 32 2)),
      zeroGroupDeposit .commit none]
    storedDeposits (Vector.replicate 32 0) log attempts = attempts ∧
    ∀ count, (passes alwaysApplied (depositAll log attempts) (Vector.replicate 32 1)
      (Vector.replicate 32 0) () count).cursor = 0 := by
  intro log attempts
  have stored : storedDeposits (Vector.replicate 32 0) log attempts = attempts := rfl
  have holds := holds_depositAll (Vector.replicate 32 0) attempts log []
    (holds_new (by decide) _) (by decide +kernel)
  refine ⟨stored, fun count => ?_⟩
  cases count with
  | zero => rfl
  | succ count =>
    rw [(passes_succ holds alwaysApplied_total (Vector.replicate 32 1) () count).1]
    rfl

/-- Number 2 is there twice, number 4 is missing, and everything is applied. -/
theorem applies_run_before_gap :
    let records := [1, 2, 2, 3, 5].map fun seq => (⟨seq, .commit, "", none⟩ : CommitRecord)
    records.Pairwise (·.seq ≤ ·.seq) ∧
      applyRecordsInOrder alwaysApplied 1 records () = (.ok ⟨3, 2, 2, true⟩, ()) ∧
      ∀ record ∈ records, record.seq ≠ 4 := by
  intro records
  have ascending : records.Pairwise (·.seq ≤ ·.seq) := by decide
  exact ⟨ascending, rfl, (applies_maximal_run alwaysApplied 1 records ascending ()).2.2.1⟩

end Fetchit.Chat
