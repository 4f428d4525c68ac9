import Fetchit.Lib.Run
import Fetchit.Relay.Directory

/-! Profile records by the identity they name. A record is stored under its agent id as it was
written, and looked up under the lower case of the one that is asked for. -/
namespace Fetchit.Relay.Directory
open Lib Lib.Outcome Lib.Ratchet Lib.Run

def tombstoneProfileAddr : String := String.ofList (List.replicate 64 '0')

def ProfileIndex.getLive (index : ProfileIndex) (agentId : String) : Option ProfileIndexRecord :=
  (index.byAgent agentId).filter fun record => record.profileAddr != tombstoneProfileAddr

def getProfile (state : ServerState) (agentId : String) : Option ProfileIndexRecord :=
  state.profiles.getLive (Text.asciiLower agentId)

namespace Profiles

/-- A DELETE makes two checks more than a POST of its tombstone, and then does the same. -/
inductive Event where
  | post (body : Body ProfileIndexRecord)
  | sweep (nowMs : Nat)

/-- The server, and the accepted records that no sweep has found expired. -/
structure History where
  server : ServerState
  unexpired : List ProfileIndexRecord

def start : History := ⟨.empty, []⟩

def step (env : Environment) (history : History) : Event → History
  | .post body =>
    match postProfile env history.server body with
    | .ok server => ⟨server, body.record.toList ++ history.unexpired⟩
    | .error _ => history
  | .sweep nowMs =>
    ⟨{ history.server with
        profiles := history.server.profiles.sweepExpired nowMs env.profileTtlMs },
      history.unexpired.filter fun record => nowMs - record.issuedAtMs ≤ env.profileTtlMs⟩

def Lowercase : Event → Prop
  | .post body => ∀ record ∈ body.record, Text.asciiLower record.agentId = record.agentId
  | .sweep _ => True

structure Indexed (history : History) : Prop where
  stored : ∀ key record, history.server.profiles.byAgent key = some record →
    record.agentId = key ∧ record ∈ history.unexpired
  newest : ∀ record ∈ history.unexpired, ∃ top,
    history.server.profiles.byAgent record.agentId = some top ∧
      (record = top ∨ record.issuedAtMs < top.issuedAtMs)
  named : ∀ record ∈ history.unexpired, ∃ id, record.agentId = Text.hexEncode id

theorem verifyRecord_decodes
    (h : verifyRecord env record = .ok ()) : ∃ id, Text.hexDecode record.agentId = some id := by
  unfold verifyRecord at h
  simp only [bind_eq_ok, okOr_eq_ok] at h
  obtain ⟨_, _, _, _, _, _, _, _, _, _, id, decoded, _⟩ := h
  exact ⟨id, decoded⟩

variable {env : Environment} {history : History}

theorem indexed_post (indexed : Indexed history)
    (lower : Lowercase (.post body)) : Indexed (step env history (.post body)) := by
  simp only [step]
  split
  · rename_i server accepted
    obtain ⟨record, profiles, parsed, put, rfl, verified⟩ := postProfile_ok accepted
    obtain ⟨rfl, above⟩ := map_putIfNewer_ok _ _ put
    obtain ⟨id, decoded⟩ := verifyRecord_decodes verified
    rw [parsed, Option.toList_some, List.singleton_append]
    constructor
    · intro key other
      by_cases here : key = record.agentId
      · simp +contextual [here]
      · simp only [Function.update_of_ne here, List.mem_cons]
        intro held
        exact (indexed.stored key other held).imp_right .inr
    · intro other mem
      by_cases here : other.agentId = record.agentId
      · simp only [here, Function.update_self, Option.some.injEq, exists_eq_left']
        rcases List.mem_cons.mp mem with rfl | mem
        · exact .inl rfl
        · obtain ⟨top, held, le⟩ := indexed.newest other mem
          have := above top (here ▸ held)
          rcases le with rfl | lt <;> omega
      · simp only [Function.update_of_ne here]
        exact indexed.newest other (List.mem_of_ne_of_mem (fun same => here (same ▸ rfl)) mem)
    · intro other mem
      rcases List.mem_cons.mp mem with rfl | mem
      · exact ⟨id, lower other parsed ▸ Text.asciiLower_of_hexDecode decoded⟩
      · exact indexed.named other mem
  · exact indexed

theorem indexed_sweep (indexed : Indexed history) (nowMs : Nat) :
    Indexed (step env history (.sweep nowMs)) := by
  constructor
  · intro key record held
    obtain ⟨held, kept⟩ := retain_eq_some.mp held
    exact (indexed.stored key record held).imp_right fun mem => List.mem_filter.mpr ⟨mem, kept⟩
  · intro record mem
    obtain ⟨mem, kept⟩ := List.mem_filter.mp mem
    obtain ⟨top, held, le⟩ := indexed.newest record mem
    refine ⟨top, retain_eq_some.mpr ⟨held, ?_⟩, le⟩
    rcases le with rfl | lt
    · exact kept
    · simp only [decide_eq_true_eq] at kept ⊢
      omega
  · intro record mem
    exact indexed.named record (List.mem_filter.mp mem).1

theorem indexed_run (env : Environment)
    (lower : ∀ event ∈ events, Lowercase event) : Indexed (run (step env) start events) := by
  have meets : Meets (step env) (fun _ => Lowercase) start events :=
    meets_of_forall (fun event mem _ => lower event mem) start
  refine run_invariant Indexed ?_ events start
    ⟨by simp [start, ServerState.empty], by simp [start], by simp [start]⟩ meets
  intro history event indexed lower
  cases event with
  | post body => exact indexed_post indexed lower
  | sweep nowMs => exact indexed_sweep indexed nowMs

/-- The agent of a key is its last byte, 32 times. -/
def sampleRelay : Environment :=
  { acceptAll with
    verifier := { acceptAll.verifier with
      crypto := { acceptAll.verifier.crypto with
        sha256 := fun bytes => Vector.replicate 32 (bytes.getLastD 0) } }
    decodeBase64Url := fun text => some (match text with
      | "k" => List.replicate 1184 0
      | "b" => List.replicate 1952 0xBB
      | _ => List.replicate 1952 0xAA)
    canonicalBytesSansSig := fun _ => .ok [] }

def sampleAgent : String := Text.hexEncode (List.replicate 32 0xAA)

def otherAgent : String := Text.hexEncode (List.replicate 32 0xBB)

def sampleProfile (agentId : String) (issuedAtMs : Nat) : Event :=
  .post ⟨0, some ⟨agentId, "", "k", "", issuedAtMs, ""⟩⟩

/-- Two agents, of whom one publishes twice, and a sweep. -/
def sampleEvents : List Event :=
  [sampleProfile sampleAgent 1, .post ⟨0, some ⟨otherAgent, "", "k", "b", 5, ""⟩⟩,
    sampleProfile sampleAgent 4, .sweep 12]

end Profiles

end Fetchit.Relay.Directory
