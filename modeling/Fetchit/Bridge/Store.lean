import Mathlib.Data.List.Pairwise
import Fetchit.Fedi.Actor

/-! The bridge's `actors` table and the registration handler. The table is keyed on
the agent id and its handles are unique; registering writes one row. -/
namespace Fetchit.Bridge
open Fedi.Json

/-- A row. The document column holds the rendering of a document and is only read back
by parsing it, so the column is the document. -/
structure ActorRecord where
  agentId : String
  handle : String
  actorUrl : String
  docJson : Value
  registeredMs : Int

inductive RegisterOutcome where
  | created
  | updated
  | handleTaken
  deriving DecidableEq

def ActorRecord.Apart (first second : ActorRecord) : Prop :=
  first.agentId ≠ second.agentId ∧ first.handle ≠ second.handle

structure Store where
  rows : List ActorRecord
  apart : rows.Pairwise ActorRecord.Apart

def Store.empty : Store := ⟨[], List.Pairwise.nil⟩

def Store.actorByHandle (store : Store) (handle : String) : Option ActorRecord :=
  store.rows.find? fun row => row.handle == handle

def Store.actorByAgent (store : Store) (agentId : String) : Option ActorRecord :=
  store.rows.find? fun row => row.agentId == agentId

theorem Store.eq_of_handle_eq (store : Store) (hfirst : first ∈ store.rows)
    (hsecond : second ∈ store.rows) (h : first.handle = second.handle) : first = second := by
  by_contra hne
  have hsymm : Std.Symm ActorRecord.Apart := ⟨fun _ _ hapart => ⟨hapart.1.symm, hapart.2.symm⟩⟩
  exact (store.apart.forall hfirst hsecond hne).2 h

variable {record : ActorRecord} {store : Store}

theorem Store.actorByHandle_of_mem (store : Store) (h : record ∈ store.rows) :
    store.actorByHandle record.handle = some record := by
  unfold Store.actorByHandle
  cases hfound : store.rows.find? fun row => row.handle == record.handle with
  | none =>
    have hnone := List.find?_eq_none.mp hfound record h
    simp at hnone
  | some other =>
    have hhandle : other.handle = record.handle := by simpa using List.find?_some hfound
    rw [store.eq_of_handle_eq (List.mem_of_find?_eq_some hfound) h hhandle]

def Store.handleConflict (store : Store) (record : ActorRecord) : Bool :=
  store.rows.any fun row => row.handle == record.handle && row.agentId != record.agentId

def replaceRow (record row : ActorRecord) : ActorRecord :=
  if row.agentId = record.agentId then record else row

def upsertRows (rows : List ActorRecord) (record : ActorRecord) : List ActorRecord :=
  if rows.any fun row => row.agentId == record.agentId then rows.map (replaceRow record)
  else rows ++ [record]

private theorem handle_ne_of_not_conflict {row : ActorRecord}
    (hfree : store.handleConflict record = false) (hrow : row ∈ store.rows)
    (hagent : row.agentId ≠ record.agentId) : row.handle ≠ record.handle := by
  intro hhandle
  have hconflict : store.handleConflict record = true := by
    unfold Store.handleConflict
    rw [List.any_eq_true]
    exact ⟨row, hrow, by simp [hhandle, hagent]⟩
  rw [hfree] at hconflict
  cases hconflict

private theorem replaceRow_apart {first second : ActorRecord}
    (hfree : store.handleConflict record = false) (hfirst : first ∈ store.rows)
    (hsecond : second ∈ store.rows) (h : first.Apart second) :
    (replaceRow record first).Apart (replaceRow record second) := by
  unfold replaceRow
  by_cases h₁ : first.agentId = record.agentId
  · have h₂ : second.agentId ≠ record.agentId := by
      intro h₂
      exact h.1 (h₁.trans h₂.symm)
    rw [if_pos h₁, if_neg h₂]
    exact ⟨h₂.symm, (handle_ne_of_not_conflict hfree hsecond h₂).symm⟩
  · rw [if_neg h₁]
    by_cases h₂ : second.agentId = record.agentId
    · rw [if_pos h₂]
      exact ⟨h₁, handle_ne_of_not_conflict hfree hfirst h₁⟩
    · rw [if_neg h₂]
      exact h

theorem upsertRows_apart (store : Store) (record : ActorRecord)
    (hfree : store.handleConflict record = false) :
    (upsertRows store.rows record).Pairwise ActorRecord.Apart := by
  unfold upsertRows
  split
  · rw [List.pairwise_map]
    exact store.apart.imp_of_mem fun hfirst hsecond => replaceRow_apart hfree hfirst hsecond
  · rename_i hfresh
    rw [List.pairwise_append]
    refine ⟨store.apart, List.pairwise_singleton _ _, ?_⟩
    intro row hrow other hother
    rw [List.mem_singleton] at hother
    subst hother
    have hagent : row.agentId ≠ other.agentId := by
      intro hsame
      apply hfresh
      rw [List.any_eq_true]
      exact ⟨row, hrow, by simp [hsame]⟩
    exact ⟨hagent, handle_ne_of_not_conflict hfree hrow hagent⟩

def Store.upsert (store : Store) (record : ActorRecord) : Option Store :=
  if h : store.handleConflict record = false then
    some ⟨upsertRows store.rows record, upsertRows_apart store record h⟩
  else none

def Store.registerActor (fault : Option String) (store : Store) (record : ActorRecord) :
    Except String RegisterOutcome × Store :=
  match fault with
  | some error => (.error error, store)
  | none =>
    let existing := (store.actorByHandle record.handle).map (·.agentId)
    if existing.any (· != record.agentId) then (.ok .handleTaken, store)
    else
      let isUpdate := (store.actorByAgent record.agentId).isSome
      match store.upsert record with
      | some store' => (.ok (if isUpdate then .updated else .created), store')
      | none => (.ok .handleTaken, store)

theorem registerActor_cases (fault : Option String) (store : Store) (record : ActorRecord) :
    (store.registerActor fault record).2 = store ∨
      store.upsert record = some (store.registerActor fault record).2 := by
  unfold Store.registerActor
  cases fault with
  | some error => exact .inl rfl
  | none =>
    dsimp only
    split
    · exact .inl rfl
    · cases h : store.upsert record with
      | none => exact .inl rfl
      | some store' => exact .inr rfl

theorem mem_upsert (h : store.upsert record = some store') (hrow : row ∈ store'.rows) :
    row = record ∨ row ∈ store.rows := by
  unfold Store.upsert at h
  split at h
  · cases Option.some.inj h
    simp only [upsertRows] at hrow
    split at hrow
    · obtain ⟨old, hold, rfl⟩ := List.mem_map.mp hrow
      unfold replaceRow
      split
      · exact .inl rfl
      · exact .inr hold
    · rw [List.mem_append, List.mem_singleton] at hrow
      exact hrow.symm
  · cases h

theorem actorByAgent_upsert (h : store.upsert record = some store') (agentId : String) :
    store'.actorByAgent agentId =
      if record.agentId = agentId then some record else store.actorByAgent agentId := by
  unfold Store.upsert at h
  split at h
  · cases Option.some.inj h
    simp only [Store.actorByAgent, upsertRows]
    split
    · rename_i known
      have same : (fun row : ActorRecord => row.agentId == agentId) ∘ replaceRow record =
          fun row => row.agentId == agentId := by
        funext row
        simp only [Function.comp_apply, replaceRow]
        split
        · rename_i hagent
          rw [hagent]
        · rfl
      rw [List.find?_map, same]
      cases hfound : store.rows.find? fun row => row.agentId == agentId with
      | none =>
        obtain ⟨row, hrow, hagent⟩ := List.any_eq_true.mp known
        have hother := List.find?_eq_none.mp hfound row hrow
        rw [eq_of_beq hagent, beq_iff_eq] at hother
        rw [if_neg hother]
        rfl
      | some row =>
        have hagent : row.agentId = agentId := by simpa using List.find?_some hfound
        simp only [Option.map_some, replaceRow, hagent, eq_comm (a := agentId)]
        split <;> rfl
    · rename_i fresh
      rw [List.find?_append]
      split
      · rename_i hagent
        subst hagent
        have hnone : store.rows.find? (fun row => row.agentId == record.agentId) = none := by
          simpa using fresh
        rw [hnone]
        simp
      · rename_i hother
        simp [hother]
  · cases h

end Fetchit.Bridge
