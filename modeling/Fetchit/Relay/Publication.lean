import Fetchit.Lib.Run
import Fetchit.Relay.Directory

/-! Whole runs of the directory: the four POST handlers, reads of forwarding pointers and the
sweeps, in any order. A forwarding POST and a forwarding read each look at two maps, one after
the other, and other requests may come between. -/
namespace Fetchit.Relay.Directory
open Lib Proto.PairRecord

inductive Index where
  | forwarding
  | pairRecordV1
  | pairRecordV4
  | profile
  deriving DecidableEq

/-- An accepted forwarding record is noted with whether a pair record of its agent was stored
at that moment. -/
inductive Note where
  | acceptedForwarding (record : ForwardingRecordV1) (paired : Bool)
  | acceptedPairRecord (record : PairRecordV1)
  | acceptedPairRecordV4 (record : PairRecordV4)
  | acceptedProfile (record : ProfileIndexRecord)
  | superseded (record : ForwardingRecordV1)
  | served (record : ForwardingRecordV1)
  deriving DecidableEq

def Note.acceptance : Note → Option ((Index × String) × Nat)
  | .acceptedForwarding record _ => some ((.forwarding, record.agentIdHex), record.issuedAtMs)
  | .acceptedPairRecord record => some ((.pairRecordV1, record.agentIdHex), record.issuedAtMs)
  | .acceptedPairRecordV4 record => some ((.pairRecordV4, record.userIdHex), record.revision)
  | .acceptedProfile record => some ((.profile, record.agentId), record.issuedAtMs)
  | _ => none

def ServerState.stamps (state : ServerState) : Index × String → Option Nat
  | (.forwarding, agent) => (state.forwarding.byAgent agent).map (·.record.issuedAtMs)
  | (.pairRecordV1, agent) => (state.pairRecords.byAgent agent).map (·.issuedAtMs)
  | (.pairRecordV4, user) => (state.pairRecords.byUser user).map (·.revision)
  | (.profile, agent) => (state.profiles.byAgent agent).map (·.issuedAtMs)

structure System where
  state : ServerState
  /-- Forwarding POSTs whose pair record has been looked up. -/
  posting : Nat → Option (ForwardingRecordV1 × Bytes)
  /-- Forwarding reads that have fetched a live record of the agent. -/
  reading : Nat → Option (String × ForwardingRecordV1)
  /-- The stamp of the last record that a sweep took from each subject. -/
  lost : Index × String → Option Nat
  history : List Note

namespace System

def empty : System := ⟨.empty, fun _ => none, fun _ => none, fun _ => none, []⟩

inductive Event where
  | lookupForwarding (task : Nat) (body : Body ForwardingRecordV1)
  | storeForwarding (task : Nat) (allowed : Bool) (nowMs : Nat)
  | postPairRecord (body : Body PairRecordV1) (allowed : Bool)
  | postPairRecordV4 (body : Body PairRecordV4) (allowed : Bool)
  | postProfile (body : Body ProfileIndexRecord)
  | readForwarding (task : Nat) (agentId : String) (nowMs : Nat)
  | answerForwarding (task : Nat)
  | sweepForwarding (nowMs : Nat)
  | sweepProfiles (nowMs : Nat)
  | sweepPairRecords (nowMs : Nat)

def settle {Error : Type} (system : System) (answer : Except Error ServerState) (note : Note) :
    System :=
  match answer with
  | .ok state => { system with state := state, history := note :: system.history }
  | .error _ => system

def settleBody {Error Record : Type} (system : System) (body : Body Record)
    (answer : Except Error ServerState) (note : Record → Note) : System :=
  match body.record with
  | some record => system.settle answer (note record)
  | none => system

def sweep (system : System) (state : ServerState) : System :=
  { system with
    state := state
    lost := fun key =>
      if state.stamps key = none ∧ system.state.stamps key ≠ none then system.state.stamps key
      else system.lost key }

def step (env : Environment) (system : System) : Event → System
  | .lookupForwarding task body =>
    { system with
      posting := Function.update system.posting task
        (Directory.lookupForwarding system.state body).toOption }
  | .storeForwarding task allowed nowMs =>
    match system.posting task with
    | none => system
    | some (record, pubkey) =>
      { system.settle
          (Directory.storeForwarding env system.state record pubkey allowed nowMs)
          (.acceptedForwarding record
            (system.state.pairRecords.get record.agentIdHex).isSome) with
        posting := Function.update system.posting task none }
  | .postPairRecord body allowed =>
    system.settleBody body (Directory.postPairRecord env system.state body allowed)
      .acceptedPairRecord
  | .postPairRecordV4 body allowed =>
    system.settleBody body (Directory.postPairRecordV4 env system.state body allowed)
      .acceptedPairRecordV4
  | .postProfile body =>
    system.settleBody body (Directory.postProfile env system.state body) .acceptedProfile
  | .readForwarding task agentId nowMs =>
    { system with
      reading := Function.update system.reading task
        ((system.state.forwarding.getLive agentId nowMs).map fun record =>
          (agentId, record)) }
  | .answerForwarding task =>
    match system.reading task with
    | none => system
    | some (agentId, record) =>
      { system with
        reading := Function.update system.reading task none
        history :=
          match unsuperseded system.state.pairRecords agentId record with
          | some record => .served record :: system.history
          | none => .superseded record :: system.history }
  | .sweepForwarding nowMs =>
    system.sweep { system.state with forwarding := system.state.forwarding.sweepExpired nowMs }
  | .sweepProfiles nowMs =>
    system.sweep { system.state with
      profiles := system.state.profiles.sweepExpired nowMs env.profileTtlMs }
  | .sweepPairRecords nowMs =>
    system.sweep { system.state with
      pairRecords := system.state.pairRecords.sweepExpired nowMs env.pairRecordTtlMs }

end System

end Fetchit.Relay.Directory
