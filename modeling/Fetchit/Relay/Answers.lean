import Fetchit.Relay.Connections

/-! The answers to deposits. A handler works through a deposit in up to four operations, and the
outcome is that of `Session.handleSend`; what the depositor sees of it is the frame that ends on
its own channel. -/
namespace Fetchit.Relay.Answers
open Lib.Run Proto.Identity Proto.Envelope TransitStore Server

/-- The handler works through a deposit, and nothing else happens meanwhile. The clock is read at
each operation. -/
def handleSend (codec : Postcard) (server : Server) (connection : Nat)
    (gating storing pushing answering : StoreEnv) (allowed : Bool) (send : SendFrame) : Server :=
  run (step codec) server [.receive connection gating allowed (.send send),
    .turn connection storing, .turn connection pushing, .turn connection answering]

def outcome (codec : Postcard) (server : Server) (conn : Connection) (gating storing : StoreEnv)
    (allowed : Bool) (send : SendFrame) : Session.SendReply :=
  (Session.handleSend codec conn.agentId (.start server.transit) storing
    ⟨encodedLen codec send.envelope, conn.maxEnvelopeBytes, allowed, conn.agentId,
      server.departed send.recipient gating.now⟩ false send.recipient send.envelope).1

def answer (send : SendFrame) (acceptedAtMs : Nat) : Session.SendReply → Option ServerFrame
  | .ack => some (.ack send.dedupeKey acceptedAtMs)
  | .moved => some (.moved send.dedupeKey)
  | .envelopeTooLarge => some (.throttle ⟨0, .envelopeTooLarge⟩)
  | .perSenderRate => some (.throttle ⟨1000, .perSenderRate⟩)
  | .perRecipientCapacity => some (.throttle ⟨5000, .perRecipientCapacity⟩)
  | .silent => none

def isAnswer : ServerFrame → Bool
  | .ack .. | .moved _ | .throttle _ => true
  | _ => false

def answersOn (server : Server) (connection : Nat) : List ServerFrame :=
  (server.sentOn connection).filter isAnswer

def roomFor (channel : Channel) (frames : Nat) : Bool :=
  !channel.closed && decide (channel.sent.length + frames - channel.taken ≤ wsOutboundCapacity)

theorem hasRoom_of_roomFor (room : roomFor channel frames)
    (positive : 0 < frames) : channel.hasRoom := by
  unfold roomFor at room
  unfold Channel.hasRoom
  simp only [Bool.and_eq_true, decide_eq_true_eq] at room ⊢
  have capacity : 0 < wsOutboundCapacity := by decide
  exact ⟨room.1, by omega⟩

theorem hasRoom_trySend (room : roomFor channel 1) (frame : ServerFrame) :
    (channel.trySend frame).hasRoom = roomFor channel 2 := by
  unfold Channel.trySend
  rw [if_pos (hasRoom_of_roomFor room Nat.one_pos)]
  unfold Channel.hasRoom roomFor
  congr 1
  simp only [decide_eq_decide, List.length_append, List.length_singleton]
  have capacity : 0 < wsOutboundCapacity := by decide
  omega

section Turns

variable {codec : Postcard} {server : Server} {connection : Nat} {conn : Connection}
  {env : StoreEnv}

variable (found : server.connections[connection]? = some conn)
include found

theorem own_act :
    (server.act connection effect).connections[connection]? =
      some (Effect.on (effect conn) connection true conn) := by
  unfold act
  rw [found]
  rw [getElem?_apply, found, decide_eq_true rfl]
  rfl

theorem turn_waiting (phase : conn.phase = .waiting) :
    (server.step codec (.turn connection env)).connections[connection]? = some conn := by
  refine (own_act found).trans ?_
  cases conn
  cases phase
  rfl

theorem turn_refusing (phase : conn.phase = .refusing refusal) :
    (server.step codec (.turn connection env)).connections[connection]? =
      some { conn with channel := conn.channel.trySend refusal.frame, phase := .waiting } := by
  refine (own_act found).trans ?_
  simp [turn, phase, goOn, Effect.on]

variable {send : SendFrame}

theorem turn_acknowledging (codec : Postcard) (env : StoreEnv)
    (phase : conn.phase = .acknowledging send transitSeq) :
    (server.step codec (.turn connection env)).connections[connection]? =
      some { conn with
        channel := conn.channel.trySend (.ack send.dedupeKey env.now)
        phase := .waiting } := by
  refine (own_act found).trans ?_
  simp [turn, phase, goOn, Effect.on]

theorem turn_pushing (codec : Postcard) (env : StoreEnv)
    (phase : conn.phase = .pushing send transitSeq) :
    (server.step codec (.turn connection env)).connections[connection]? =
      some { conn with
        channel := if server.route send.recipient = some connection then
          conn.channel.trySend (.deliver ⟨send.envelope, transitSeq, env.now⟩) else conn.channel
        phase := .acknowledging send transitSeq } := by
  refine (own_act found).trans ?_
  cases routed : server.route send.recipient with
  | none => simp [turn, phase, goOn, Effect.on, routed]
  | some live =>
    by_cases own : live = connection <;> simp [turn, phase, goOn, Effect.on, routed, own]

theorem turns_waiting (phase : conn.phase = .waiting) (envs : List StoreEnv) :
    (run (step codec) server (envs.map (.turn connection))).connections[connection]? =
      some conn := by
  induction envs generalizing server with
  | nil => exact found
  | cons env envs ih => exact ih (turn_waiting found phase)

theorem turns_refusing
    (phase : conn.phase = .refusing refusal) (env : StoreEnv) (envs : List StoreEnv) :
    (run (step codec) server ((env :: envs).map (.turn connection))).connections[connection]? =
      some { conn with channel := conn.channel.trySend refusal.frame, phase := .waiting } :=
  turns_waiting (turn_refusing found phase) rfl envs

theorem receive_send (codec : Postcard) (env : StoreEnv) (allowed : Bool) (send : SendFrame)
    (waiting : conn.phase = .waiting) :
    let after := server.step codec (.receive connection env allowed (.send send))
    after.connections[connection]? =
        some { conn with phase := server.gates codec conn env.now allowed send } ∧
      after.transit = server.transit ∧ after.byAgent = server.byAgent := by
  refine ⟨(own_act found).trans ?_, ?_, ?_⟩
  all_goals
    simp only [step, act, found, if_pos waiting]
    rfl

theorem turn_storing (codec : Postcard) (env : StoreEnv) (phase : conn.phase = .storing send) :
    let after := server.step codec (.turn connection env)
    after.byAgent = server.byAgent ∧
      after.connections[connection]? = some { conn with
        phase := match (server.transit.enqueue codec env send.recipient send.envelope).1 with
          | .error _ => .refusing (.throttle ⟨5000, .perRecipientCapacity⟩)
          | .ok transitSeq => .pushing send transitSeq } := by
  rcases stored : server.transit.enqueue codec env send.recipient send.envelope with
    ⟨result, transit⟩
  constructor
  · simp only [step, act, found, turn, phase, stored]
    cases result <;> rfl
  · refine (own_act found).trans ?_
    simp only [turn, phase, stored]
    cases result <;> rfl

theorem answersOn_of :
    answersOn server connection = conn.channel.sent.filter isAnswer := by
  unfold answersOn sentOn
  rw [found]
  rfl

end Turns

section Deposits

variable {codec : Postcard} {server : Server} {connection : Nat} {conn : Connection}

theorem sent_of_room {channel : Channel} (room : channel.hasRoom) (frame : ServerFrame) :
    (channel.trySend frame).sent = channel.sent ++ [frame] := by
  unfold Channel.trySend
  rw [if_pos room]

theorem sent_of_full {channel : Channel} (full : ¬channel.hasRoom) (frame : ServerFrame) :
    (channel.trySend frame).sent = channel.sent := by
  unfold Channel.trySend
  rw [if_neg full]

theorem isAnswer_refusal (refusal : Refusal) : isAnswer refusal.frame = true := by
  cases refusal <;> rfl

theorem filter_answer (answers : isAnswer frame = true) :
    (frames ++ [frame]).filter isAnswer = frames.filter isAnswer ++ [frame] := by
  rw [List.filter_append, List.filter_singleton, answers, cond_true]

variable {send : SendFrame}

/-- The delivery of a deposit for the depositor's own session takes a place on its channel, and
there is none left for the answer. -/
def Displaced (server : Server) (connection : Nat) (conn : Connection) (send : SendFrame) : Bool :=
  server.route send.recipient = some connection ∧ ¬roomFor conn.channel 2

theorem answersOn_storing (found : server.connections[connection]? = some conn)
    (phase : conn.phase = .storing send) (room : roomFor conn.channel 1) :
    answersOn (run (step codec) server
      ([storing, pushing, answering].map (.turn connection))) connection =
      conn.channel.sent.filter isAnswer ++
        match (server.transit.enqueue codec storing send.recipient send.envelope).1 with
        | .error _ => [.throttle ⟨5000, .perRecipientCapacity⟩]
        | .ok _ => if Displaced server connection conn send then []
          else [.ack send.dedupeKey answering.now] := by
  obtain ⟨routes, stored⟩ := turn_storing found codec storing phase
  cases result : (server.transit.enqueue codec storing send.recipient send.envelope).1 with
  | error error =>
    rw [result] at stored
    rw [List.map_cons, run_cons, answersOn_of (turns_refusing stored rfl pushing [answering])]
    rw [sent_of_room (hasRoom_of_roomFor room Nat.one_pos), filter_answer (isAnswer_refusal _)]
    rfl
  | ok transitSeq =>
    rw [result] at stored
    have acked := turn_acknowledging (turn_pushing stored codec pushing rfl) codec answering rfl
    refine (answersOn_of acked).trans ?_
    have route : (server.step codec (.turn connection storing)).route send.recipient =
        server.route send.recipient := by
      unfold Server.route
      rw [routes]
    rw [route]
    unfold Displaced
    by_cases own : server.route send.recipient = some connection
    · -- the delivery takes the first place
      have delivered := hasRoom_trySend room
        (.deliver ⟨send.envelope, transitSeq, pushing.now⟩)
      have first := hasRoom_of_roomFor room Nat.one_pos
      rw [if_pos own]
      by_cases both : roomFor conn.channel 2
      · rw [if_neg (by simp [both]), sent_of_room (delivered.trans both), filter_answer rfl,
          sent_of_room first, List.filter_append, List.filter_cons_of_neg Bool.false_ne_true,
          List.filter_nil, List.append_nil]
      · rw [if_pos (by simp [own, both]), sent_of_full (delivered ▸ both), sent_of_room first,
          List.filter_append, List.filter_cons_of_neg Bool.false_ne_true, List.filter_nil]
    · rw [if_neg own, if_neg (by simp [own]),
        sent_of_room (hasRoom_of_roomFor room Nat.one_pos), filter_answer rfl]

theorem outcome_gates (codec : Postcard) (server : Server) (conn : Connection)
    (gating storing : StoreEnv) (allowed : Bool) (send : SendFrame) (acceptedAtMs : Nat) :
    let reply := outcome codec server conn gating storing allowed send
    match server.gates codec conn gating.now allowed send with
    | .refusing refusal => reply ≠ .ack ∧ answer send acceptedAtMs reply = some refusal.frame
    | .waiting => reply = .silent
    | .storing deposit => deposit = send ∧ reply =
        match (server.transit.enqueue codec storing send.recipient send.envelope).1 with
        | .error _ => .perRecipientCapacity
        | .ok _ => .ack
    | _ => False := by
  intro reply
  have expanded : reply = outcome codec server conn gating storing allowed send := rfl
  unfold outcome Session.handleSend at expanded
  unfold gates
  by_cases large : encodedLen codec send.envelope > conn.maxEnvelopeBytes
  · rw [if_pos large] at expanded ⊢
    rw [expanded]
    exact ⟨nofun, rfl⟩
  rw [if_neg large] at expanded ⊢
  by_cases limited : (!allowed) = true
  · rw [if_pos limited] at expanded ⊢
    rw [expanded]
    exact ⟨nofun, rfl⟩
  rw [if_neg limited] at expanded ⊢
  by_cases foreign : send.envelope.senderAgentId ≠ conn.agentId
  · rw [if_pos foreign] at expanded ⊢
    exact expanded
  rw [if_neg foreign] at expanded ⊢
  by_cases unknown : send.envelope.version ≠ 2 ∧ send.envelope.version ≠ 3
  · rw [if_pos unknown] at expanded ⊢
    exact expanded
  rw [if_neg unknown] at expanded ⊢
  by_cases departed : server.departed send.recipient gating.now = true
  · rw [if_pos departed] at expanded ⊢
    rw [expanded]
    exact ⟨nofun, rfl⟩
  rw [if_neg departed] at expanded ⊢
  refine ⟨rfl, expanded.trans ?_⟩
  have store : (Session.start server.transit).store = server.transit := rfl
  rw [store]
  rcases server.transit.enqueue codec storing send.recipient send.envelope with ⟨result, transit⟩
  cases result <;> rfl

theorem answersOn_handleSend (codec : Postcard) (server : Server) (connection : Nat)
    (conn : Connection) (gating storing pushing answering : StoreEnv) (allowed : Bool)
    (send : SendFrame) (found : server.connections[connection]? = some conn)
    (waiting : conn.phase = .waiting) (room : roomFor conn.channel 1) :
    let reply := outcome codec server conn gating storing allowed send
    answersOn (handleSend codec server connection gating storing pushing answering allowed send)
      connection = answersOn server connection ++
        if reply = .ack ∧ Displaced server connection conn send then []
        else (answer send answering.now reply).toList := by
  intro reply
  obtain ⟨received, transit, routes⟩ := receive_send found codec gating allowed send waiting
  have decided := outcome_gates codec server conn gating storing allowed send answering.now
  rw [answersOn_of found]
  cases phase : server.gates codec conn gating.now allowed send with
  | refusing refusal =>
    rw [phase] at received
    simp only [phase] at decided
    rw [if_neg fun acked => decided.1 acked.1, decided.2]
    refine (answersOn_of (turns_refusing received rfl storing [pushing, answering])).trans ?_
    rw [sent_of_room (hasRoom_of_roomFor room Nat.one_pos), filter_answer (isAnswer_refusal _)]
    rfl
  | waiting =>
    rw [phase] at received
    simp only [phase] at decided
    rw [show reply = .silent from decided]
    refine (answersOn_of (turns_waiting received rfl [storing, pushing, answering])).trans ?_
    exact (List.append_nil _).symm
  | storing deposit =>
    rw [phase] at received
    simp only [phase] at decided
    obtain ⟨rfl, decided⟩ := decided
    have displaced : Displaced (server.step codec (.receive connection gating allowed
        (.send deposit))) connection { conn with phase := .storing deposit } deposit =
          Displaced server connection conn deposit := by
      unfold Displaced Server.route
      rw [routes]
    refine (answersOn_storing received rfl room).trans ?_
    rw [displaced, transit, show reply = _ from decided]
    cases (server.transit.enqueue codec storing deposit.recipient deposit.envelope).1 with
    | error error => rfl
    | ok transitSeq =>
      by_cases lost : Displaced server connection conn deposit
      · rw [if_pos lost, if_pos ⟨rfl, lost⟩]
      · rw [if_neg lost, if_neg fun acked => lost acked.2]
        rfl
  | registering | reading | replaying | pushing | acknowledging | closing | closed =>
    simp only [phase] at decided

def Dropped (codec : Postcard) (conn : Connection) (allowed : Bool) (send : SendFrame) : Prop :=
  encodedLen codec send.envelope ≤ conn.maxEnvelopeBytes ∧ allowed ∧
    (send.envelope.senderAgentId ≠ conn.agentId ∨
      send.envelope.version ≠ 2 ∧ send.envelope.version ≠ 3)

def Stored (codec : Postcard) (server : Server) (conn : Connection) (gating storing : StoreEnv)
    (allowed : Bool) (send : SendFrame) : Prop :=
  encodedLen codec send.envelope ≤ conn.maxEnvelopeBytes ∧ allowed ∧
    ¬server.departed send.recipient gating.now ∧
    (server.transit.enqueue codec storing send.recipient send.envelope).1.isOk

theorem outcome_cases (codec : Postcard) (server : Server) (conn : Connection)
    (gating storing : StoreEnv) (allowed : Bool) (send : SendFrame) :
    let reply := outcome codec server conn gating storing allowed send
    (reply = .silent ↔ Dropped codec conn allowed send) ∧
      (reply = .ack ↔ ¬Dropped codec conn allowed send ∧
        Stored codec server conn gating storing allowed send) := by
  unfold outcome Session.handleSend Dropped Stored
  dsimp only
  split
  · rename_i large
    simp [Nat.not_le.mpr large]
  rename_i fits
  split
  · rename_i limited
    simp [(Bool.not_eq_true' allowed).mp limited]
  rename_i allowing
  have passed : encodedLen codec send.envelope ≤ conn.maxEnvelopeBytes ∧ allowed = true :=
    ⟨Nat.le_of_not_lt fits, by simpa using allowing⟩
  split
  · rename_i foreign
    simp [passed, foreign]
  rename_i own
  split
  · rename_i unknown
    simp [passed, unknown]
  rename_i known
  split
  · rename_i departed
    simp [passed, own, known, departed]
  rename_i staying
  have store : (Session.start server.transit).store = server.transit := rfl
  rw [store]
  rcases server.transit.enqueue codec storing send.recipient send.envelope with ⟨result, transit⟩
  cases result <;> simp [passed, own, known, staying, Except.isOk, Except.toBool]

def AnswerTo (send : SendFrame) : ServerFrame → Prop
  | .ack key _ | .moved key => key = send.dedupeKey
  | .throttle _ => True
  | _ => False

theorem answerTo_of_answer (given : answer send acceptedAtMs reply = some frame) :
    AnswerTo send frame := by
  cases reply <;> cases given
  all_goals trivial

theorem answer_ne_none (heard : reply ≠ .silent) :
    ∃ frame, answer send acceptedAtMs reply = some frame := by
  cases reply with
  | silent => exact absurd rfl heard
  | _ => exact ⟨_, rfl⟩

/-- With room for one frame on the depositor's channel, a deposit is answered once unless it is
dropped, in another's name or of an unknown version, or its own delivery displaces the answer. -/
theorem deposit_answered_once_iff (codec : Postcard) (server : Server) (connection : Nat)
    (conn : Connection) (gating storing pushing answering : StoreEnv) (allowed : Bool)
    (send : SendFrame) (found : server.connections[connection]? = some conn)
    (waiting : conn.phase = .waiting) (room : roomFor conn.channel 1) :
    (∃ frame, AnswerTo send frame ∧
      answersOn (handleSend codec server connection gating storing pushing answering allowed send)
        connection = answersOn server connection ++ [frame]) ↔
      ¬Dropped codec conn allowed send ∧
        ¬(Stored codec server conn gating storing allowed send ∧
          Displaced server connection conn send) := by
  rw [answersOn_handleSend codec server connection conn gating storing pushing answering allowed
    send found waiting room]
  obtain ⟨silent, acked⟩ := outcome_cases codec server conn gating storing allowed send
  constructor
  · rintro ⟨frame, _, answered⟩
    have given := List.append_cancel_left answered
    have heard : ¬Dropped codec conn allowed send := by
      intro dropped
      rw [silent.mpr dropped] at given
      cases given
    refine ⟨heard, ?_⟩
    rintro ⟨stored, displaced⟩
    rw [if_pos ⟨acked.mpr ⟨heard, stored⟩, displaced⟩] at given
    cases given
  · rintro ⟨heard, placed⟩
    obtain ⟨frame, given⟩ := answer_ne_none (mt silent.mp heard)
    refine ⟨frame, answerTo_of_answer given, ?_⟩
    rw [if_neg fun lost => placed ⟨(acked.mp lost.1).2, lost.2⟩, given]
    rfl

end Deposits

/-! Agent 1 is connected, and its handler waits for a frame. -/

def note (version : UInt16) (sender : AgentId) : TransitEnvelope :=
  ⟨version, .dm, none, none, sender, [], 0, 0, [], [], [], []⟩

def noteTo (recipient : AgentId) (envelope : TransitEnvelope) : SendFrame :=
  ⟨recipient, envelope, Vector.replicate 16 7⟩

def listening (pending : Nat) : Server where
  transit := .memory (.new 1000 10 4096)
  records := .empty
  connections := [⟨Vector.replicate 32 1, 4096, ⟨List.replicate pending (.pong 0), 0, false⟩,
    .waiting⟩]
  byAgent agent := if agent = Vector.replicate 32 1 then some 0 else none

def clock : StoreEnv := ⟨1, none, fun _ => false⟩

theorem note_answered :
    ∃ frame, AnswerTo (noteTo (Vector.replicate 32 2) (note 3 (Vector.replicate 32 1))) frame ∧
      answersOn (handleSend (.only (note 3 (Vector.replicate 32 1))) (listening 0) 0 clock clock
        clock clock true (noteTo (Vector.replicate 32 2) (note 3 (Vector.replicate 32 1)))) 0 =
        answersOn (listening 0) 0 ++ [frame] := by
  refine (deposit_answered_once_iff (.only (note 3 (Vector.replicate 32 1))) (listening 0) 0 _
    clock clock clock clock true (noteTo (Vector.replicate 32 2) (note 3 (Vector.replicate 32 1)))
    rfl rfl (by decide)).mpr ⟨?_, ?_⟩
  · rintro ⟨_, _, foreign | unknown⟩
    · exact foreign rfl
    · exact unknown.2 rfl
  · rintro ⟨_, displaced⟩
    revert displaced
    decide +kernel

/-- A deposit in another's name and one of an unknown version are dropped without an answer. So is
the acknowledgement of a deposit for the depositor's own session, if the delivery takes the last
place on its channel. -/
theorem deposits_unanswered :
    answersOn (handleSend (.only (note 3 (Vector.replicate 32 5))) (listening 0) 0 clock clock
      clock clock true (noteTo (Vector.replicate 32 2) (note 3 (Vector.replicate 32 5)))) 0 = [] ∧
    answersOn (handleSend (.only (note 4 (Vector.replicate 32 1))) (listening 0) 0 clock clock
      clock clock true (noteTo (Vector.replicate 32 2) (note 4 (Vector.replicate 32 1)))) 0 = [] ∧
    roomFor ⟨List.replicate 511 (.pong 0), 0, false⟩ 1 ∧
    answersOn (handleSend (.only (note 3 (Vector.replicate 32 1))) (listening 511) 0 clock clock
      clock clock true (noteTo (Vector.replicate 32 1) (note 3 (Vector.replicate 32 1)))) 0 =
        [] := by
  decide +kernel

end Fetchit.Relay.Answers
