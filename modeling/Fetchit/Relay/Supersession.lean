import Fetchit.Relay.Publication

/-! Whether a forwarding pointer that a newer pair record has retired stays retired. The pointer
is kept and withheld by a comparison with the stored pair record, so it comes back when a sweep
takes the pair record away. -/
namespace Fetchit.Relay.Directory
open Lib Lib.Outcome Lib.Ratchet Lib.Run Proto.PairRecord

theorem getLive_eq_some {index : ForwardingIndex} (h : index.getLive agent nowMs = some record) :
    ∃ stored, index.byAgent agent = some stored ∧ stored.record = record := by
  obtain ⟨stored, found, live⟩ := Option.bind_eq_some_iff.mp h
  split at live
  · cases live
  · cases live
    exact ⟨stored, found, rfl⟩

theorem lookupForwarding_ok {state : ServerState} (h : lookupForwarding state body = .ok found) :
    (state.pairRecords.get (Text.asciiLower found.1.agentIdHex)).isSome := by
  unfold lookupForwarding at h
  simp only [bind_eq_ok, okOr_eq_ok, Except.ok.injEq] at h
  obtain ⟨_, _, record, _, pair, stored, _, _, rfl⟩ := h
  rw [stored]
  rfl

/-- A forwarding record that passes verification is filed under the id that its pair record was
looked up by. -/
theorem asciiLower_of_verified (h : verifyForwardingRecord verifier record pubkey = .ok ()) :
    Text.asciiLower record.agentIdHex = record.agentIdHex := by
  rw [agentIdHex_of_verifyForwardingRecord verifier h]
  exact Text.asciiLower_hexEncode _

namespace System

/-- The pair record of `agent` guards something: a forwarding POST has looked it up and is not
done, or it has retired a forwarding pointer. -/
def Relied (system : System) (agent : String) : Prop :=
  (∃ task found, system.posting task = some found ∧
    Text.asciiLower found.1.agentIdHex = agent) ∨
  ∃ record, .superseded record ∈ system.history ∧ record.agentIdHex = agent

/-- No sweep takes away a pair record that is relied on. -/
def KeepsRelied (env : Environment) (system : System) : Event → Prop
  | .sweepPairRecords nowMs =>
    ∀ agent pair, system.state.pairRecords.get agent = some pair → system.Relied agent →
      nowMs - pair.issuedAtMs ≤ env.pairRecordTtlMs
  | _ => True

def revives (later earlier : Note) : Bool :=
  match later, earlier with
  | .served record, .superseded retired => record == retired
  | _, _ => false

structure Guarded (system : System) : Prop where
  filed : ∀ agent stored, system.state.forwarding.byAgent agent = some stored →
    stored.record.agentIdHex = agent
  reads : ∀ task agent record, system.reading task = some (agent, record) →
    record.agentIdHex = agent
  posts : ∀ task found, system.posting task = some found →
    (system.state.pairRecords.get (Text.asciiLower found.1.agentIdHex)).isSome
  retired : ∀ record, .superseded record ∈ system.history →
    ∃ pair, system.state.pairRecords.get record.agentIdHex = some pair ∧
      record.issuedAtMs < pair.issuedAtMs
  paired : ∀ record stored, .acceptedForwarding record stored ∈ system.history → stored = true
  permanent : system.history.Pairwise fun later earlier => revives later earlier = false

def neutral : Note → Prop
  | .superseded _ => False
  | .served _ => False
  | .acceptedForwarding _ paired => paired = true
  | _ => True

theorem revives_of_neutral (plain : neutral later) (earlier : Note) :
    revives later earlier = false := by
  cases later with
  | served record => exact plain.elim
  | _ => rfl

def PairsAdvance (system : System) (next : ServerState) : Prop :=
  ∀ agent pair, system.state.pairRecords.get agent = some pair → system.Relied agent →
    ∃ later, next.pairRecords.get agent = some later ∧ pair.issuedAtMs ≤ later.issuedAtMs

variable {system : System} {env : Environment}

theorem pairsAdvance_of_eq (h : next.pairRecords.byAgent = system.state.pairRecords.byAgent) :
    system.PairsAdvance next := by
  intro agent pair stored _
  refine ⟨pair, ?_, le_rfl⟩
  unfold PairRecordIndex.get
  rw [h]
  exact stored

theorem Guarded.advance {next : System} (guarded : system.Guarded)
    (filed : ∀ agent stored, next.state.forwarding.byAgent agent = some stored →
      stored.record.agentIdHex = agent) (advance : system.PairsAdvance next.state)
    (reading : next.reading = system.reading)
    (posting : ∀ task found, next.posting task = some found →
      system.posting task = some found) (notes : List Note)
    (history : next.history = notes ++ system.history) (plain : ∀ note ∈ notes, neutral note) :
    next.Guarded := by
  have old : ∀ note ∈ next.history, ¬ neutral note → note ∈ system.history := by
    intro note mem special
    rw [history] at mem
    rcases List.mem_append.mp mem with new | old
    · exact absurd (plain note new) special
    · exact old
  refine ⟨filed, reading ▸ guarded.reads, ?_, ?_, ?_, ?_⟩
  · intro task found pending
    have before := posting task found pending
    obtain ⟨pair, stored⟩ := Option.isSome_iff_exists.mp (guarded.posts task found before)
    obtain ⟨later, kept, _⟩ := advance _ pair stored (.inl ⟨task, found, before, rfl⟩)
    exact Option.isSome_iff_exists.mpr ⟨later, kept⟩
  · intro record mem
    have before := old _ mem id
    obtain ⟨pair, stored, newer⟩ := guarded.retired record before
    obtain ⟨later, kept, le⟩ := advance _ pair stored (.inr ⟨record, before, rfl⟩)
    exact ⟨later, kept, by omega⟩
  · intro record stored mem
    by_contra unpaired
    exact unpaired (guarded.paired record stored (old _ mem unpaired))
  · rw [history]
    refine List.pairwise_append.mpr ⟨?_, guarded.permanent, ?_⟩
    · apply List.pairwise_of_forall_mem_list
      intro later mem earlier _
      exact revives_of_neutral (plain later mem) earlier
    · intro later mem earlier _
      exact revives_of_neutral (plain later mem) earlier

theorem Guarded.lookup (guarded : system.Guarded) (task : Nat) (body : Body ForwardingRecordV1) :
    (step env system (.lookupForwarding task body)).Guarded := by
  refine { guarded with posts := fun other found pending => ?_ }
  by_cases same : other = task
  · subst same
    have looked : (Directory.lookupForwarding system.state body).toOption = some found := by
      simpa [step] using pending
    cases outcome : Directory.lookupForwarding system.state body with
    | error e => simp [outcome, Except.toOption] at looked
    | ok result =>
      rw [outcome] at looked
      cases looked
      exact lookupForwarding_ok outcome
  · exact guarded.posts other found (by simpa [step, same] using pending)

theorem Guarded.store (guarded : system.Guarded) (task : Nat) (allowed : Bool) (nowMs : Nat) :
    (step env system (.storeForwarding task allowed nowMs)).Guarded := by
  simp only [step]
  split
  · exact guarded
  · rename_i record pubkey found
    have posting : ∀ other pending, Function.update system.posting task none other =
        some pending → system.posting other = some pending := by
      intro other pending held
      by_cases same : other = task
      · simp [same] at held
      · simpa [same] using held
    cases outcome : Directory.storeForwarding env system.state record pubkey allowed nowMs with
    | error e =>
      exact guarded.advance guarded.filed (pairsAdvance_of_eq rfl) rfl posting [] rfl
        (by simp)
    | ok next =>
      obtain ⟨verified, index, put, rfl⟩ := storeForwarding_ok outcome
      obtain ⟨rfl, _⟩ := map_putIfNewer_ok _ _ put
      refine guarded.advance ?_ (pairsAdvance_of_eq rfl) rfl posting [_] rfl ?_
      · intro agent stored present
        by_cases same : agent = record.agentIdHex
        · subst same
          simp only [settle, Function.update_self, Option.some.injEq] at present
          rw [← present]
        · exact guarded.filed agent stored (by simpa [settle, same] using present)
      · intro note mem
        cases List.mem_singleton.mp mem
        have looked := guarded.posts task _ found
        rwa [asciiLower_of_verified verified] at looked

theorem Guarded.settle (guarded : system.Guarded) {body : Body Record}
    {answer : Except Error ServerState} {note : Record → Note}
    (plain : ∀ record, neutral (note record)) (accepted : ∀ next, answer = .ok next →
      next.forwarding = system.state.forwarding ∧ system.PairsAdvance next) :
    (system.settleBody body answer note).Guarded := by
  unfold settleBody
  split
  · rename_i record parsed
    cases answer with
    | error e => exact guarded
    | ok next =>
      obtain ⟨forwarding, advance⟩ := accepted next rfl
      refine guarded.advance ?_ advance rfl (fun _ _ pending => pending) [note record] rfl ?_
      · intro agent stored present
        exact guarded.filed agent stored (forwarding ▸ present)
      · intro other mem
        cases List.mem_singleton.mp mem
        exact plain record
  · exact guarded

theorem pairsAdvance_post (h : system.state.pairRecords.putIfNewer record = .ok index) :
    system.PairsAdvance { system.state with pairRecords := index } := by
  obtain ⟨rfl, above⟩ := map_putIfNewer_ok _ _ h
  intro agent pair stored _
  by_cases same : agent = record.agentIdHex
  · subst same
    exact ⟨record, by simp [PairRecordIndex.get], (above pair stored).le⟩
  · exact ⟨pair, by simpa [PairRecordIndex.get, same] using stored, le_rfl⟩

theorem Guarded.read (guarded : system.Guarded) (task : Nat) (agentId : String) (nowMs : Nat) :
    (step env system (.readForwarding task agentId nowMs)).Guarded := by
  refine { guarded with reads := fun other agent record fetched => ?_ }
  by_cases same : other = task
  · subst same
    have live : ∃ found, system.state.forwarding.getLive agentId nowMs = some found ∧
        (agentId, found) = (agent, record) := by
      simpa [step] using fetched
    obtain ⟨found, live, pair⟩ := live
    cases pair
    obtain ⟨stored, present, rfl⟩ := getLive_eq_some live
    exact guarded.filed agentId stored present
  · exact guarded.reads other agent record (by simpa [step, same] using fetched)

/-- What a read answers: the pointer is withheld only below a newer pair record, and never
served below one. -/
theorem unsuperseded_cases (pairRecords : PairRecordIndex) (agentId : String)
    (record : ForwardingRecordV1) :
    (unsuperseded pairRecords agentId record = some record ∧
      ∀ pair, pairRecords.get agentId = some pair → pair.issuedAtMs ≤ record.issuedAtMs) ∨
    (unsuperseded pairRecords agentId record = none ∧
      ∃ pair, pairRecords.get agentId = some pair ∧ record.issuedAtMs < pair.issuedAtMs) := by
  unfold unsuperseded
  cases pairRecords.get agentId with
  | none => exact .inl ⟨rfl, fun pair held => nomatch held⟩
  | some pair =>
    by_cases newer : pair.issuedAtMs > record.issuedAtMs
    · exact .inr ⟨if_pos newer, pair, rfl, newer⟩
    · refine .inl ⟨if_neg newer, fun other held => ?_⟩
      cases held
      omega

theorem Guarded.answer (guarded : system.Guarded) (task : Nat) :
    (step env system (.answerForwarding task)).Guarded := by
  simp only [step]
  split
  · exact guarded
  · rename_i agentId record fetched
    have named : record.agentIdHex = agentId := guarded.reads task agentId record fetched
    have reads : ∀ other agent pending, Function.update system.reading task none other =
        some (agent, pending) → pending.agentIdHex = agent := by
      intro other agent pending held
      by_cases same : other = task
      · simp [same] at held
      · exact guarded.reads other agent pending (by simpa [same] using held)
    rcases unsuperseded_cases system.state.pairRecords agentId record with
      ⟨served, below⟩ | ⟨withheld, pair, stored, newer⟩
    · rw [served]
      refine ⟨guarded.filed, reads, guarded.posts, ?_, ?_, ?_⟩
      · intro other mem
        exact guarded.retired other (by simpa using mem)
      · intro other stored mem
        exact guarded.paired other stored (by simpa using mem)
      · refine List.pairwise_cons.mpr ⟨fun earlier mem => ?_, guarded.permanent⟩
        cases earlier with
        | superseded retired =>
          by_contra revived
          have same : record = retired := by simpa [revives] using revived
          subst same
          obtain ⟨pair, stored, newer⟩ := guarded.retired record mem
          have := below pair (named ▸ stored)
          omega
        | _ => rfl
    · rw [withheld]
      refine ⟨guarded.filed, reads, guarded.posts, ?_, ?_, ?_⟩
      · intro other mem
        rcases List.mem_cons.mp mem with same | mem
        · cases same
          exact ⟨pair, named ▸ stored, newer⟩
        · exact guarded.retired other mem
      · intro other stored mem
        exact guarded.paired other stored (by simpa using mem)
      · exact List.pairwise_cons.mpr ⟨fun earlier _ => rfl, guarded.permanent⟩

theorem Guarded.sweep {state : ServerState} (guarded : system.Guarded)
    (filed : ∀ agent stored, state.forwarding.byAgent agent = some stored →
      system.state.forwarding.byAgent agent = some stored) (advance : system.PairsAdvance state) :
    (system.sweep state).Guarded :=
  guarded.advance (fun agent stored present => guarded.filed agent stored
    (filed agent stored present)) advance rfl (fun _ _ pending => pending) [] rfl (by simp)

theorem step_guarded (guarded : system.Guarded) (keeps : system.KeepsRelied env event) :
    (step env system event).Guarded := by
  cases event with
  | lookupForwarding task body => exact guarded.lookup task body
  | storeForwarding task allowed nowMs => exact guarded.store task allowed nowMs
  | postPairRecord body allowed =>
    refine guarded.settle (fun _ => trivial) fun next stored => ?_
    obtain ⟨record, index, _, put, rfl⟩ := postPairRecord_ok stored
    exact ⟨rfl, pairsAdvance_post put⟩
  | postPairRecordV4 body allowed =>
    refine guarded.settle (fun _ => trivial) fun next stored => ?_
    obtain ⟨record, index, _, put, rfl⟩ := postPairRecordV4_ok stored
    obtain ⟨rfl, _⟩ := map_putIfNewer_ok _ _ put
    exact ⟨rfl, pairsAdvance_of_eq rfl⟩
  | postProfile body =>
    refine guarded.settle (fun _ => trivial) fun next stored => ?_
    obtain ⟨record, index, _, put, rfl, _⟩ := postProfile_ok stored
    exact ⟨rfl, pairsAdvance_of_eq rfl⟩
  | readForwarding task agentId nowMs => exact guarded.read task agentId nowMs
  | answerForwarding task => exact guarded.answer task
  | sweepForwarding nowMs =>
    refine guarded.sweep ?_ (pairsAdvance_of_eq rfl)
    intro agent stored present
    exact (retain_eq_some.mp present).1
  | sweepProfiles nowMs =>
    exact guarded.sweep (fun _ _ present => present) (pairsAdvance_of_eq rfl)
  | sweepPairRecords nowMs =>
    refine guarded.sweep (fun _ _ present => present) ?_
    intro agent pair stored relied
    have young := keeps agent pair stored relied
    exact ⟨pair, retain_eq_some.mpr ⟨stored, decide_eq_true young⟩, le_rfl⟩

theorem empty_guarded : empty.Guarded := by
  constructor <;> simp [empty, ServerState.empty]

/-- Along every run whose sweeps keep the pair records that are relied on, a retired forwarding
pointer is never served again, and every accepted one has its pair record stored. -/
theorem supersession_permanent (env : Environment) (events : List Event)
    (keeps : Meets (step env) (fun system event => system.KeepsRelied env event) empty events) :
    ((run (step env) empty events).history.Pairwise
      fun later earlier => revives later earlier = false) ∧
    ∀ record paired, .acceptedForwarding record paired ∈ (run (step env) empty events).history →
      paired = true := by
  have guarded := run_invariant Guarded (fun _ _ => step_guarded) events empty empty_guarded keeps
  exact ⟨guarded.permanent, guarded.paired⟩

def moveAndReturn : List Event :=
  [.postPairRecord ⟨100, some (zeroPairRecord 1)⟩ true,
    .lookupForwarding 0 ⟨100, some (zeroForwarding 2)⟩, .storeForwarding 0 true 2,
    .postPairRecord ⟨100, some (zeroPairRecord 3)⟩ true,
    .readForwarding 1 zeroId 4, .answerForwarding 1]

theorem supersession_permanent_move_and_return :
    (run (step acceptAll) empty (moveAndReturn ++ [.sweepPairRecords 10])).history =
      [.superseded (zeroForwarding 2), .acceptedPairRecord (zeroPairRecord 3),
        .acceptedForwarding (zeroForwarding 2) true, .acceptedPairRecord (zeroPairRecord 1)] ∧
    (run (step acceptAll) empty (moveAndReturn ++ [.sweepPairRecords 10])).history.Pairwise
      fun later earlier => revives later earlier = false :=
  ⟨by decide +kernel, (supersession_permanent acceptAll (moveAndReturn ++ [Event.sweepPairRecords 10])
    ⟨trivial, trivial, trivial, trivial, trivial, trivial,
      fun _ pair _ _ => Nat.sub_le 10 pair.issuedAtMs, trivial⟩).1⟩

/-- A sweep that evicts the pair record brings the retired pointer back, and one that falls
between the two halves of a forwarding POST leaves its record without a pair record. -/
theorem evicted_pair_record_revives_pointer :
    (.served (zeroForwarding 2) ∈ (run (step acceptAll) empty (moveAndReturn ++
      [.sweepPairRecords 14, .readForwarding 2 zeroId 15, .answerForwarding 2])).history ∧
    .superseded (zeroForwarding 2) ∈ (run (step acceptAll) empty moveAndReturn).history) ∧
    .acceptedForwarding (zeroForwarding 2) false ∈ (run (step acceptAll) empty
      [.postPairRecord ⟨100, some (zeroPairRecord 1)⟩ true,
        .lookupForwarding 0 ⟨100, some (zeroForwarding 2)⟩, .sweepPairRecords 12,
        .storeForwarding 0 true 12]).history := by
  decide +kernel

end System

end Fetchit.Relay.Directory
