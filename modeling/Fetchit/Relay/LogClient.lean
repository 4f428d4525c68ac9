import Fetchit.Lib.Run
import Fetchit.Relay.GroupLog

/-! A relay client's group-log fetches. A reply carries the group and no number of the request
it answers, so a fetch takes every chunk of its group that reaches it after it has drained the
channel, and those of an earlier fetch that was given up may still be on their way. -/
namespace Fetchit.Relay.LogClient
open Lib.Run Proto.Identity Proto.Envelope Function

/-- A `LogFetch` frame and the call that sent it. The frame itself does not name the call. -/
structure Request where
  call : Nat
  fetch : LogFetch
  deriving DecidableEq

/-- A chunk and the call whose frame it answers, which it does not name either. -/
structure Reply where
  call : Nat
  chunk : LogRecords
  deriving DecidableEq

structure Connection where
  live : Bool
  requests : List Request
  replies : List Reply
  deriving DecidableEq

def Connection.opened : Connection := ⟨true, [], []⟩

def Connection.closed : Connection := ⟨false, [], []⟩

/-- The fetch that holds the receiver of the `log_records` channel. -/
structure Fetching where
  request : Request
  out : List LogRecordWire
  taken : List Reply
  deriving DecidableEq

structure Answer where
  request : Request
  records : List LogRecordWire
  deriving DecidableEq

/-- A call's success: what it returned and the chunks that it read. -/
structure Return where
  answer : Answer
  taken : List Reply
  deriving DecidableEq

structure System where
  log : RamGroupLog
  running : Bool
  calls : Nat
  fetching : Option Fetching
  commands : List Request
  inner : Option Nat
  connections : List Connection
  logRecords : List Reply
  served : List Answer
  returned : List Return

def answerTo (log : RamGroupLog) (agentId : AgentId) (request : Request) (room : Nat) :
    List Reply :=
  (handleLogFetch log agentId request.fetch room).map fun chunk => ⟨request.call, chunk⟩

namespace System

def start (log : RamGroupLog) : System := ⟨log, true, 0, none, [], none, [], [], [], []⟩

def connection (system : System) (gen : Nat) : Connection :=
  system.connections.getD gen .closed

def setConnection (system : System) (gen : Nat) (conn : Connection) : System :=
  { system with connections := system.connections.set gen conn }

/-- `log_fetch` up to its first wait: it takes the lock, drains the channel and queues the
command. A call that finds the lock taken waits. -/
def logFetch (system : System) (fetch : LogFetch) : System :=
  match system.fetching with
  | some _ => system
  | none =>
    let request : Request := ⟨system.calls, fetch⟩
    if system.running then
      { system with
        calls := system.calls + 1
        logRecords := []
        fetching := some ⟨request, [], []⟩
        commands := system.commands ++ [request] }
    else { system with calls := system.calls + 1, logRecords := [] }

def receive (system : System) : System :=
  match system.fetching, system.logRecords with
  | some fetching, reply :: rest =>
    if reply.chunk.groupId = fetching.request.fetch.groupId then
      let out := fetching.out ++ reply.chunk.records
      let taken := fetching.taken ++ [reply]
      if reply.chunk.done then
        { system with
          logRecords := rest
          fetching := none
          returned := system.returned ++ [⟨⟨fetching.request, out⟩, taken⟩] }
      else
        { system with
          logRecords := rest
          fetching := some ⟨fetching.request, out, taken⟩ }
    else { system with logRecords := rest }
  | _, _ => system

/-- The supervisor takes a `LogFetch` command. Without a connection, or on a dead one, the
frame is dropped. -/
def supervise (system : System) : System :=
  match system.running, system.commands with
  | true, request :: rest =>
    let taken := { system with commands := rest }
    match system.inner with
    | none => taken
    | some gen =>
      match system.connections[gen]? with
      | some ⟨true, requests, replies⟩ =>
        taken.setConnection gen ⟨true, requests ++ [request], replies⟩
      | _ => taken
  | _, _ => system

def handle (agentId : AgentId) (system : System) (gen room : Nat) : System :=
  match system.connections[gen]? with
  | some ⟨live, request :: rest, replies⟩ =>
    { system.setConnection gen
        ⟨live, rest, replies ++ answerTo system.log agentId request room⟩ with
      served := system.served ++
        [⟨request, fetchedRecords system.log agentId request.fetch⟩] }
  | _ => system

def read (system : System) (gen : Nat) : System :=
  match system.connections[gen]? with
  | some ⟨live, requests, reply :: rest⟩ =>
    { system.setConnection gen ⟨live, requests, rest⟩ with
      logRecords := system.logRecords ++ [reply] }
  | _ => system

inductive Event where
  | logFetch (fetch : LogFetch)
  | receive
  /-- The call times out, finds the channel closed or is cancelled. -/
  | giveUp
  | supervise
  | connected
  | disconnected
  | shutdown
  /-- The connection dies with everything that is on it. -/
  | drop (gen : Nat)
  | handle (gen room : Nat)
  | read (gen : Nat)
  /-- Deposits and sweeps change the relay's log. -/
  | change (log : RamGroupLog)

def step (agentId : AgentId) (system : System) : Event → System
  | .logFetch fetch => system.logFetch fetch
  | .receive => system.receive
  | .giveUp => { system with fetching := none }
  | .supervise => system.supervise
  | .connected =>
    { system with
      inner := some system.connections.length
      connections := system.connections ++ [.opened] }
  | .disconnected => { system with inner := none }
  | .shutdown => { system with running := false, inner := none }
  | .drop gen => system.setConnection gen .closed
  | .handle gen room => handle agentId system gen room
  | .read gen => system.read gen
  | .change log => { system with log := log }

/-- Every success is the relay's answer to the call's own frame, read from the chunks of that
answer alone. -/
def Paired (system : System) : Prop :=
  ∀ result ∈ system.returned, result.answer ∈ system.served ∧
    ∀ reply ∈ result.taken, reply.call = result.answer.request.call

instance (system : System) : Decidable system.Paired :=
  inferInstanceAs (Decidable (∀ _ ∈ _, _))

end System

def requestsFor (group : GroupId) (requests : List Request) : List Request :=
  requests.filter (·.fetch.groupId == group)

def repliesFor (group : GroupId) (replies : List Reply) : List Reply :=
  replies.filter (·.chunk.groupId == group)

section
variable (group : GroupId)

@[simp] theorem requestsFor_nil : requestsFor group [] = [] := rfl

@[simp] theorem requestsFor_append (first second : List Request) :
    requestsFor group (first ++ second) = requestsFor group first ++ requestsFor group second := by
  simp [requestsFor]

@[simp] theorem repliesFor_nil : repliesFor group [] = [] := rfl

@[simp] theorem repliesFor_append (first second : List Reply) :
    repliesFor group (first ++ second) = repliesFor group first ++ repliesFor group second := by
  simp [repliesFor]

variable {group}

theorem requestsFor_cons_here (here : request.fetch.groupId = group) (rest : List Request) :
    requestsFor group (request :: rest) = request :: requestsFor group rest := by
  simp [requestsFor, here]

theorem requestsFor_cons_away (away : request.fetch.groupId ≠ group)
    (rest : List Request) : requestsFor group (request :: rest) = requestsFor group rest := by
  simp [requestsFor, away]

theorem repliesFor_cons_here (here : reply.chunk.groupId = group)
    (rest : List Reply) : repliesFor group (reply :: rest) = reply :: repliesFor group rest := by
  simp [repliesFor, here]

theorem repliesFor_cons_away (away : reply.chunk.groupId ≠ group)
    (rest : List Reply) : repliesFor group (reply :: rest) = repliesFor group rest := by
  simp [repliesFor, away]

end

def Connection.Idle (group : GroupId) (conn : Connection) : Prop :=
  requestsFor group conn.requests = [] ∧ repliesFor group conn.replies = []

instance (group : GroupId) (conn : Connection) : Decidable (conn.Idle group) :=
  inferInstanceAs (Decidable (_ ∧ _))

/-- How far the frame of a fetch and its answer have come, by what of its group is still on the
way: the frame, a part of the answer's chunks in order, or nothing any more. -/
inductive Stage (served : List Answer) (fetching : Fetching) : List Request → List Reply → Prop
  | asked (untouched : fetching.taken = []) : Stage served fetching [fetching.request] []
  | lost : Stage served fetching [] []
  | answered (records : List LogRecordWire) (arriving missing : List Reply)
      (found : ⟨fetching.request, records⟩ ∈ served)
      (chunks : (logRecordFrames fetching.request.fetch.groupId records).map
        (fun chunk => (⟨fetching.request.call, chunk⟩ : Reply)) =
          fetching.taken ++ arriving ++ missing)
      (unfinished : ∀ reply ∈ fetching.taken, reply.chunk.done = false) :
      Stage served fetching [] arriving

namespace Stage
variable {served : List Answer} {fetching : Fetching} {asking other : List Request}
  {arriving later : List Reply}

theorem mono (stage : Stage served fetching asking arriving) (answer : Answer) :
    Stage (served ++ [answer]) fetching asking arriving := by
  cases stage with
  | asked untouched => exact .asked untouched
  | lost => exact .lost
  | answered records arriving missing found chunks unfinished =>
    exact .answered records arriving missing (List.mem_append_left _ found) chunks unfinished

theorem cut (stage : Stage served fetching (asking ++ other) (arriving ++ later)) :
    Stage served fetching asking arriving := by
  generalize asks : asking ++ other = all at stage
  generalize arrives : arriving ++ later = chunks at stage
  cases stage with
  | asked untouched =>
    obtain ⟨rfl, rfl⟩ := List.append_eq_nil_iff.mp arrives
    rcases List.append_eq_singleton_iff.mp asks with ⟨rfl, rfl⟩ | ⟨rfl, rfl⟩
    · exact .lost
    · exact .asked untouched
  | lost =>
    obtain ⟨rfl, rfl⟩ := List.append_eq_nil_iff.mp arrives
    obtain ⟨rfl, rfl⟩ := List.append_eq_nil_iff.mp asks
    exact .lost
  | answered records _ missing found chunks unfinished =>
    obtain ⟨rfl, rfl⟩ := List.append_eq_nil_iff.mp asks
    subst arrives
    exact .answered records arriving (later ++ missing) found (by simpa using chunks) unfinished

theorem own (stage : Stage served fetching asking arriving) (mem : request ∈ asking) :
    request = fetching.request ∧ asking = [request] ∧ arriving = [] ∧ fetching.taken = [] := by
  cases stage with
  | asked untouched =>
    rw [List.mem_singleton.mp mem]
    exact ⟨rfl, rfl, rfl, untouched⟩
  | lost | answered => cases mem

theorem next (stage : Stage served fetching asking (reply :: arriving)) :
    asking = [] ∧ ∃ records missing, ⟨fetching.request, records⟩ ∈ served ∧
      (logRecordFrames fetching.request.fetch.groupId records).map
        (fun chunk => (⟨fetching.request.call, chunk⟩ : Reply)) =
          fetching.taken ++ [reply] ++ arriving ++ missing ∧
      ∀ reply ∈ fetching.taken, reply.chunk.done = false := by
  cases stage with
  | answered records _ missing found chunks unfinished =>
    exact ⟨rfl, records, missing, found, by simpa using chunks, unfinished⟩

end Stage

theorem complete_of_done
    (chunks : (logRecordFrames group records).map (fun chunk => (⟨call, chunk⟩ : Reply)) =
      taken ++ [reply] ++ missing)
    (unfinished : ∀ reply ∈ taken, reply.chunk.done = false) (done : reply.chunk.done = true) :
    taken.flatMap (·.chunk.records) ++ reply.chunk.records = records := by
  have frames := congrArg (List.map Reply.chunk) chunks
  simp only [List.map_map, List.map_append, comp_def,
    List.map_id', List.append_assoc] at frames
  have whole := collectFrames_logRecordFrames group records
  rw [frames, collectFrames_append (by simpa using unfinished)] at whole
  simpa [collectFrames, done, List.flatMap_map] using whole

theorem call_of_chunks
    (chunks : (logRecordFrames group records).map (fun chunk => (⟨call, chunk⟩ : Reply)) =
      taken ++ missing) : ∀ reply ∈ taken, reply.call = call := by
  intro reply mem
  have from_answer : reply ∈ taken ++ missing := List.mem_append_left _ mem
  rw [← chunks] at from_answer
  obtain ⟨chunk, _, rfl⟩ := List.mem_map.mp from_answer
  rfl

theorem groupId_of_mem_answerTo {log : RamGroupLog}
    (mem : reply ∈ answerTo log agentId request room) :
    reply.chunk.groupId = request.fetch.groupId := by
  obtain ⟨chunk, sent, rfl⟩ := List.mem_map.mp mem
  exact groupId_of_mem_logRecordFrames (List.mem_of_mem_take sent)

theorem repliesFor_answerTo_here (log : RamGroupLog) (agentId : AgentId) (request : Request)
    (room : Nat) : repliesFor request.fetch.groupId (answerTo log agentId request room) =
      answerTo log agentId request room := by
  apply List.filter_eq_self.mpr
  intro reply mem
  simp [groupId_of_mem_answerTo mem]

theorem repliesFor_answerTo_away (log : RamGroupLog) (agentId : AgentId)
    (away : request.fetch.groupId ≠ group) (room : Nat) :
    repliesFor group (answerTo log agentId request room) = [] := by
  apply List.filter_eq_nil_iff.mpr
  intro reply mem
  simp [groupId_of_mem_answerTo mem, away]

/-- One connection carries all that is on its way for the fetch's group, and its stage
accounts for it. -/
structure Tracked (served : List Answer) (commands : List Request) (connection : Nat → Connection)
    (logRecords : List Reply) (fetching : Fetching) (gen : Nat) : Prop where
  out : fetching.out = fetching.taken.flatMap (·.chunk.records)
  alone : ∀ other, other ≠ gen → (connection other).Idle fetching.request.fetch.groupId
  stage : Stage served fetching
    (requestsFor fetching.request.fetch.groupId commands ++
      requestsFor fetching.request.fetch.groupId (connection gen).requests)
    (repliesFor fetching.request.fetch.groupId logRecords ++
      repliesFor fetching.request.fetch.groupId (connection gen).replies)

namespace Tracked
variable {served : List Answer} {commands : List Request} {connection : Nat → Connection}
  {logRecords : List Reply} {fetching : Fetching} {gen : Nat}

section
variable (tracked : Tracked served commands connection logRecords fetching gen)
include tracked

theorem drop (broken : Nat) :
    Tracked served commands (update connection broken .closed) logRecords fetching
      gen := by
  refine ⟨tracked.out, ?_, ?_⟩
  · intro other away
    by_cases same : other = broken
    · subst same
      rw [update_self]
      exact ⟨rfl, rfl⟩
    · rw [update_of_ne same]
      exact tracked.alone other away
  · by_cases same : gen = broken
    · subst same
      simpa [Connection.closed] using tracked.stage.cut
    · rw [update_of_ne same]
      exact tracked.stage

theorem swap (changed : Nat) (conn : Connection)
    (requests : requestsFor fetching.request.fetch.groupId conn.requests =
      requestsFor fetching.request.fetch.groupId (connection changed).requests)
    (replies : repliesFor fetching.request.fetch.groupId conn.replies =
      repliesFor fetching.request.fetch.groupId (connection changed).replies) :
    Tracked served commands (update connection changed conn) logRecords fetching
      gen := by
  refine ⟨tracked.out, ?_, ?_⟩
  · intro other away
    have idle := tracked.alone other away
    by_cases same : other = changed
    · subst same
      rw [update_self]
      exact ⟨requests.trans idle.1, replies.trans idle.2⟩
    · rw [update_of_ne same]
      exact idle
  · by_cases same : gen = changed
    · subst same
      rw [update_self, requests, replies]
      exact tracked.stage
    · rw [update_of_ne same]
      exact tracked.stage

end

variable {request : Request} {reply : Reply}

section
variable (tracked : Tracked served (request :: commands) connection logRecords fetching gen)
include tracked

theorem discard :
    Tracked served commands connection logRecords fetching gen := by
  refine ⟨tracked.out, tracked.alone, ?_⟩
  have stage := tracked.stage
  by_cases here : request.fetch.groupId = fetching.request.fetch.groupId
  · rw [requestsFor_cons_here here, List.cons_append] at stage
    obtain ⟨_, asking, arriving, _⟩ := stage.own List.mem_cons_self
    rw [(List.cons.inj asking).2, arriving]
    exact .lost
  · rw [requestsFor_cons_away here] at stage
    exact stage

/-- The fetch's own frame leaves the queue only while no connection carries anything for its
group, so that the connection it is written to becomes the one that does. -/
theorem send (current : Nat) (live : Bool) :
    ∃ gen, Tracked served commands (update connection current
      ⟨live, (connection current).requests ++ [request], (connection current).replies⟩)
      logRecords fetching gen := by
  by_cases here : request.fetch.groupId = fetching.request.fetch.groupId
  · have stage := tracked.stage
    rw [requestsFor_cons_here here] at stage
    obtain ⟨rfl, asking, arriving, untouched⟩ := stage.own List.mem_cons_self
    obtain ⟨queued, asked⟩ := List.append_eq_nil_iff.mp (List.cons.inj asking).2
    obtain ⟨waiting, coming⟩ := List.append_eq_nil_iff.mp arriving
    have idle : ∀ other, (connection other).Idle fetching.request.fetch.groupId := by
      intro other
      by_cases same : other = gen
      · subst same
        exact ⟨asked, coming⟩
      · exact tracked.alone other same
    refine ⟨current, tracked.out, ?_, ?_⟩
    · intro other away
      rw [update_of_ne away]
      exact idle other
    · rw [update_self, requestsFor_append, requestsFor_cons_here rfl, queued, waiting,
        (idle current).1, (idle current).2]
      exact .asked untouched
  · refine ⟨gen, tracked.discard.swap current _ ?_ rfl⟩
    rw [requestsFor_append, requestsFor_cons_away here, requestsFor_nil, List.append_nil]

end

section
variable (tracked : Tracked served commands connection logRecords fetching gen)
include tracked

theorem answer (log : RamGroupLog) (agentId : AgentId) (room : Nat)
    (carried : connection changed = ⟨live, request :: rest, replies⟩) :
    Tracked (served ++ [⟨request, fetchedRecords log agentId request.fetch⟩]) commands
      (update connection changed
        ⟨live, rest, replies ++ answerTo log agentId request room⟩) logRecords fetching gen := by
  have grown : Tracked (served ++ [⟨request, fetchedRecords log agentId request.fetch⟩]) commands
      connection logRecords fetching gen := ⟨tracked.out, tracked.alone, tracked.stage.mono _⟩
  by_cases here : request.fetch.groupId = fetching.request.fetch.groupId
  · have same : changed = gen := by
      by_contra away
      have idle := (tracked.alone changed away).1
      rw [carried, requestsFor_cons_here here] at idle
      cases idle
    subst same
    have stage := tracked.stage
    rw [carried, requestsFor_cons_here here] at stage
    obtain ⟨rfl, asking, arriving, untouched⟩ := stage.own (List.mem_append_right _ List.mem_cons_self)
    obtain ⟨queued, asked⟩ : requestsFor fetching.request.fetch.groupId commands = [] ∧
        requestsFor fetching.request.fetch.groupId rest = [] := by
      simpa [List.append_eq_singleton_iff] using asking
    obtain ⟨waiting, coming⟩ := List.append_eq_nil_iff.mp arriving
    refine ⟨tracked.out, ?_, ?_⟩
    · intro other away
      rw [update_of_ne away]
      exact tracked.alone other away
    · rw [update_self, queued, asked, waiting, repliesFor_append, coming,
        repliesFor_answerTo_here]
      refine .answered _ _ (((logRecordFrames fetching.request.fetch.groupId
        (fetchedRecords log agentId fetching.request.fetch)).drop room).map
          fun chunk => ⟨fetching.request.call, chunk⟩)
        (List.mem_append_right _ (List.mem_singleton_self _)) ?_ (by simp [untouched])
      rw [untouched, List.nil_append, List.nil_append, List.nil_append, answerTo, handleLogFetch,
        ← List.map_append, List.take_append_drop]
  · apply grown.swap changed
    · rw [carried, requestsFor_cons_away here]
    · rw [carried, repliesFor_append, repliesFor_answerTo_away log agentId here, List.append_nil]

theorem read (carried : connection changed = ⟨live, requests, reply :: rest⟩) :
    Tracked served commands (update connection changed ⟨live, requests, rest⟩)
      (logRecords ++ [reply]) fetching gen := by
  by_cases here : reply.chunk.groupId = fetching.request.fetch.groupId
  · have same : changed = gen := by
      by_contra away
      have idle := (tracked.alone changed away).2
      rw [carried, repliesFor_cons_here here] at idle
      cases idle
    subst same
    refine ⟨tracked.out, ?_, ?_⟩
    · intro other away
      rw [update_of_ne away]
      exact tracked.alone other away
    · have stage := tracked.stage
      rw [carried, repliesFor_cons_here here] at stage
      rw [update_self, repliesFor_append, repliesFor_cons_here here, List.append_assoc]
      exact stage
  · have swapped : Tracked served commands
        (update connection changed ⟨live, requests, rest⟩) logRecords fetching gen := by
      apply tracked.swap changed
      · rw [carried]
      · rw [carried, repliesFor_cons_away here]
    refine ⟨swapped.out, swapped.alone, ?_⟩
    rw [repliesFor_append, repliesFor_cons_away here, repliesFor_nil, List.append_nil]
    exact swapped.stage

end

theorem start (call : Nat) (queued : requestsFor fetch.groupId commands = [])
    (idle : ∀ gen, (connection gen).Idle fetch.groupId) :
    Tracked served (commands ++ [⟨call, fetch⟩]) connection [] ⟨⟨call, fetch⟩, [], []⟩ gen := by
  refine ⟨rfl, fun other _ => idle other, ?_⟩
  rw [requestsFor_append, queued, requestsFor_cons_here rfl, (idle gen).1, (idle gen).2]
  exact .asked rfl

section
variable (tracked : Tracked served commands connection (reply :: logRecords) fetching gen)
include tracked

theorem skip (away : reply.chunk.groupId ≠ fetching.request.fetch.groupId) :
    Tracked served commands connection logRecords fetching gen := by
  have stage := tracked.stage
  rw [repliesFor_cons_away away] at stage
  exact ⟨tracked.out, tracked.alone, stage⟩

theorem take (here : reply.chunk.groupId = fetching.request.fetch.groupId)
    (more : reply.chunk.done = false) :
    Tracked served commands connection logRecords
      ⟨fetching.request, fetching.out ++ reply.chunk.records, fetching.taken ++ [reply]⟩ gen := by
  have stage := tracked.stage
  rw [repliesFor_cons_here here] at stage
  obtain ⟨asking, records, missing, found, chunks, unfinished⟩ := stage.next
  refine ⟨by simp [tracked.out], tracked.alone, ?_⟩
  rw [asking]
  refine .answered records _ missing found chunks ?_
  intro other mem
  rcases List.mem_append.mp mem with old | new
  · exact unfinished other old
  · rw [List.mem_singleton.mp new]
    exact more

theorem finish
    (here : reply.chunk.groupId = fetching.request.fetch.groupId) (done : reply.chunk.done = true) :
    ⟨fetching.request, fetching.out ++ reply.chunk.records⟩ ∈ served ∧
      ∀ other ∈ fetching.taken ++ [reply], other.call = fetching.request.call := by
  have stage := tracked.stage
  rw [repliesFor_cons_here here] at stage
  obtain ⟨_, records, missing, found, chunks, unfinished⟩ := stage.next
  rw [List.append_assoc] at chunks
  rw [tracked.out, complete_of_done chunks unfinished done]
  exact ⟨found, call_of_chunks chunks⟩

end

end Tracked

namespace System

theorem connection_setConnection {system : System}
    (known : system.connections[gen]? = some conn) (changed : Connection) :
    (system.setConnection gen changed).connection =
      update system.connection gen changed := by
  have inside := (List.getElem?_eq_some_iff.mp known).1
  funext other
  by_cases same : other = gen
  · subst same
    simp [connection, setConnection, inside]
  · simp [connection, setConnection, same, Ne.symm same]

theorem connection_eq {system : System}
    (known : system.connections[gen]? = some conn) : system.connection gen = conn := by
  simp [connection, known]

theorem connection_connected (agentId : AgentId) (system : System) :
    (step agentId system .connected).connection =
      update system.connection system.connections.length .opened := by
  funext other
  simp only [connection, step, List.getD_eq_getElem?_getD, update_apply]
  rcases Nat.lt_trichotomy other system.connections.length with before | same | after
  · rw [List.getElem?_append_left before, if_neg (by omega)]
  · subst same
    simp
  · rw [if_neg (by omega), List.getElem?_eq_none (by simp; omega),
      List.getElem?_eq_none (by omega)]

structure Matched (system : System) : Prop where
  paired : system.Paired
  tracked : ∀ fetching, system.fetching = some fetching → ∃ gen,
    Tracked system.served system.commands system.connection system.logRecords fetching gen

/-- No frame of the group is queued or unanswered and no chunk of it is on its way. -/
def Settled (system : System) (group : GroupId) : Prop :=
  requestsFor group system.commands = [] ∧ ∀ conn ∈ system.connections, conn.Idle group

instance (system : System) (group : GroupId) : Decidable (system.Settled group) :=
  inferInstanceAs (Decidable (_ ∧ _))

/-- A fetch starts only when the earlier ones of its group are settled. -/
def StartsSettled (system : System) : Event → Prop
  | .logFetch fetch => system.fetching = none → system.Settled fetch.groupId
  | _ => True

instance (system : System) (event : Event) : Decidable (system.StartsSettled event) := by
  cases event <;> unfold StartsSettled <;> infer_instance

theorem Settled.idle {system : System} (settled : system.Settled group)
    (gen : Nat) : (system.connection gen).Idle group := by
  unfold connection
  rw [List.getD_eq_getElem?_getD]
  cases known : system.connections[gen]? with
  | none => exact ⟨rfl, rfl⟩
  | some conn => exact settled.2 conn (List.mem_of_getElem? known)

namespace Matched
variable {system : System}

variable (matched : system.Matched)
include matched

theorem logFetch (fetch : LogFetch)
    (settled : system.fetching = none → system.Settled fetch.groupId) :
    (system.logFetch fetch).Matched := by
  unfold System.logFetch
  split
  · exact matched
  · rename_i free
    split
    · refine ⟨matched.paired, ?_⟩
      rintro _ ⟨⟩
      exact ⟨0, .start system.calls (settled free).1 (settled free).idle⟩
    · refine ⟨matched.paired, ?_⟩
      intro fetching held
      rw [free] at held
      cases held

theorem receive : system.receive.Matched := by
  unfold System.receive
  split
  · rename_i fetching reply rest held channel
    obtain ⟨gen, tracked⟩ := matched.tracked fetching held
    rw [channel] at tracked
    split
    · rename_i here
      by_cases done : reply.chunk.done = true
      · simp only [if_pos done]
        refine ⟨?_, by simp⟩
        intro result mem
        rcases List.mem_append.mp mem with old | new
        · exact matched.paired result old
        · rw [List.mem_singleton.mp new]
          exact tracked.finish here done
      · simp only [if_neg done]
        refine ⟨matched.paired, ?_⟩
        rintro _ ⟨⟩
        exact ⟨gen, tracked.take here (by simpa using done)⟩
    · rename_i away
      refine ⟨matched.paired, ?_⟩
      intro other same
      cases held.symm.trans same
      exact ⟨gen, tracked.skip away⟩
  · exact matched

theorem supervise : system.supervise.Matched := by
  unfold System.supervise
  split
  · rename_i request rest _ queued
    have discarded : ({ system with commands := rest } : System).Matched := by
      refine ⟨matched.paired, ?_⟩
      intro fetching held
      obtain ⟨gen, tracked⟩ := matched.tracked fetching held
      rw [queued] at tracked
      exact ⟨gen, tracked.discard⟩
    split
    · exact discarded
    · rename_i current _
      split
      · rename_i requests replies known
        refine ⟨matched.paired, ?_⟩
        intro fetching held
        obtain ⟨gen, tracked⟩ := matched.tracked fetching held
        rw [queued] at tracked
        have sent := tracked.send current true
        rw [connection_eq known, ← connection_setConnection known] at sent
        exact sent
      · exact discarded
  · exact matched

theorem handle (agentId : AgentId) (gen room : Nat) :
    (System.handle agentId system gen room).Matched := by
  unfold System.handle
  split
  · rename_i live request rest replies known
    refine ⟨?_, ?_⟩
    · intro result mem
      obtain ⟨found, own⟩ := matched.paired result mem
      exact ⟨List.mem_append_left _ found, own⟩
    · intro fetching held
      obtain ⟨way, tracked⟩ := matched.tracked fetching held
      have answered := tracked.answer system.log agentId room (connection_eq known)
      rw [← connection_setConnection known] at answered
      exact ⟨way, answered⟩
  · exact matched

theorem read (gen : Nat) : (system.read gen).Matched := by
  unfold System.read
  split
  · rename_i live requests reply rest known
    refine ⟨matched.paired, ?_⟩
    intro fetching held
    obtain ⟨way, tracked⟩ := matched.tracked fetching held
    have moved := tracked.read (connection_eq known)
    rw [← connection_setConnection known] at moved
    exact ⟨way, moved⟩
  · exact matched

theorem drop (gen : Nat) :
    (system.setConnection gen .closed).Matched := by
  refine ⟨matched.paired, ?_⟩
  intro fetching held
  obtain ⟨way, tracked⟩ := matched.tracked fetching held
  cases known : system.connections[gen]? with
  | none =>
    have same : system.setConnection gen .closed = system := by
      unfold setConnection
      rw [List.set_eq_of_length_le (List.getElem?_eq_none_iff.mp known)]
    rw [same]
    exact ⟨way, tracked⟩
  | some conn =>
    have dropped := tracked.drop gen
    rw [← connection_setConnection known] at dropped
    exact ⟨way, dropped⟩

theorem connected (agentId : AgentId) :
    (step agentId system .connected).Matched := by
  refine ⟨matched.paired, ?_⟩
  intro fetching held
  obtain ⟨way, tracked⟩ := matched.tracked fetching held
  have fresh : system.connection system.connections.length = .closed := by
    simp [connection]
  have swapped := tracked.swap system.connections.length .opened
    (by rw [fresh]; rfl) (by rw [fresh]; rfl)
  rw [← connection_connected agentId] at swapped
  exact ⟨way, swapped⟩

end Matched

theorem matched_step (agentId : AgentId) (system : System) (event : Event)
    (matched : system.Matched) (settled : system.StartsSettled event) :
    (step agentId system event).Matched := by
  cases event with
  | logFetch fetch => exact matched.logFetch fetch settled
  | receive => exact matched.receive
  | giveUp => exact ⟨matched.paired, by simp [step]⟩
  | supervise => exact matched.supervise
  | connected => exact matched.connected agentId
  | disconnected | shutdown | change => exact ⟨matched.paired, matched.tracked⟩
  | drop gen => exact matched.drop gen
  | handle gen room => exact matched.handle agentId gen room
  | read gen => exact matched.read gen

theorem matched_start (log : RamGroupLog) : (start log).Matched :=
  ⟨by simp [Paired, start], by simp [start]⟩

/-- In a run whose fetches start settled, every success is the answer to the call's own
frame. -/
theorem paired_of_startsSettled (agentId : AgentId) (log : RamGroupLog) (events : List Event)
    (settled : Meets (step agentId) StartsSettled (start log) events) :
    (run (step agentId) (start log) events).Paired :=
  (run_invariant Matched (matched_step agentId) events _ (matched_start log) settled).paired

def oneCommitLog : RamGroupLog :=
  depositAll (.new 1000 16 10000 (by decide)) [zeroGroupDeposit .commit none]

/-- A fetch times out, its answer comes in after that, and the next fetch drains it. -/
theorem drained_straggler_paired :
    let events := [Event.connected, .logFetch ⟨Vector.replicate 32 0, 0⟩, .supervise, .giveUp,
      .handle 0 8, .read 0, .logFetch ⟨Vector.replicate 32 0, 1⟩, .supervise, .handle 0 8, .read 0,
      .receive]
    (run (step (Vector.replicate 32 1)) (start oneCommitLog) events).returned.map
        (·.answer.records) = [[]] ∧
      (run (step (Vector.replicate 32 1)) (start oneCommitLog) events).Paired := by
  intro events
  exact ⟨by decide +kernel,
    paired_of_startsSettled (Vector.replicate 32 1) oneCommitLog events (by decide +kernel)⟩

/-- A fetch times out before the relay has answered. The next fetch of the group asks for the
records after the first one and is handed the first one. -/
theorem late_chunk_answers_next_fetch :
    let final := run (step (Vector.replicate 32 1)) (start oneCommitLog)
      [Event.connected, .logFetch ⟨Vector.replicate 32 0, 0⟩, .supervise, .giveUp,
        .logFetch ⟨Vector.replicate 32 0, 1⟩, .supervise, .handle 0 8, .handle 0 8, .read 0,
        .receive]
    ¬ final.Paired ∧
      final.returned.map (fun result => (result.answer.request, result.answer.records.length)) =
        [(⟨1, ⟨Vector.replicate 32 0, 1⟩⟩, 1)] ∧
      final.served.map (fun answer => (answer.request.call, answer.records.length)) =
        [(0, 1), (1, 0)] := by
  decide +kernel

end System

end Fetchit.Relay.LogClient
