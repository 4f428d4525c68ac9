import Mathlib.Data.List.AList

/-! Passes over the entries of a keyed store. A visit may fail, writes to the store and counts. A
pass stops at the first failure and keeps what was written until then. -/
namespace Fetchit.Lib.Pass

variable {Error K V : Type} [DecidableEq K]

abbrev Store (K V : Type) := AList fun _ : K => V

abbrev Outcome (Error K V : Type) := Except Error Nat × Store K V

def andThen (first : Outcome Error K V) (next : Store K V → Outcome Error K V) :
    Outcome Error K V :=
  match first with
  | (.error error, store) => (.error error, store)
  | (.ok count, store) =>
    match next store with
    | (.error error, store) => (.error error, store)
    | (.ok more, store) => (.ok (count + more), store)

omit [DecidableEq K] in
theorem andThen_eq_ok (h : andThen first next = (.ok total, last)) :
    ∃ count store more, first = (.ok count, store) ∧ next store = (.ok more, last) := by
  obtain ⟨result, store⟩ := first
  cases result with
  | error error => cases h
  | ok count =>
    refine ⟨count, store, ?_⟩
    unfold andThen at h
    dsimp only at h
    split at h
    · cases h
    · rename_i more after ran
      cases h
      exact ⟨more, rfl, ran⟩

def pass (visit : Store K V → K → Outcome Error K V) : Store K V → List K → Outcome Error K V
  | store, [] => (.ok 0, store)
  | store, key :: rest => andThen (visit store key) fun store => pass visit store rest

def trace (visit : Store K V → K → Outcome Error K V) : Store K V → List K → List (Store K V)
  | store, [] => [store]
  | store, key :: rest =>
    store :: match visit store key with
      | (.error _, after) => [after]
      | (.ok _, after) => trace visit after rest

def thenTrace (stores : List (Store K V)) (first : Outcome Error K V)
    (next : Store K V → List (Store K V)) : List (Store K V) :=
  stores ++ match first with
    | (.error _, _) => []
    | (.ok _, store) => next store

omit [DecidableEq K] in
theorem mem_thenTrace :
    store ∈ thenTrace stores first next ↔
      store ∈ stores ∨ ∃ count middle, first = (.ok count, middle) ∧ store ∈ next middle := by
  unfold thenTrace
  rw [List.mem_append]
  obtain ⟨result, middle⟩ := first
  cases result with
  | error | ok => simp

/-- A visit that succeeds on an entry as expected writes that entry only, with the given effect. -/
structure Visits (visit : Store K V → K → Outcome Error K V) (expected : K → Option V → Prop)
    (effect : K → Option V → Option V → Prop) : Prop where
  elsewhere : ∀ {store after key count}, expected key (store.lookup key) →
    visit store key = (.ok count, after) →
      ∀ {other}, other ≠ key → after.lookup other = store.lookup other
  own : ∀ {store after key count}, expected key (store.lookup key) →
    visit store key = (.ok count, after) → effect key (store.lookup key) (after.lookup key)

section

variable {visit : Store K V → K → Outcome Error K V} {expected : K → Option V → Prop}
  {effect : K → Option V → Option V → Prop}

variable (visits : Visits visit expected effect)
include visits

theorem Visits.ahead {property : K → Option V → Prop}
    {rest : List K} (outside : key ∉ rest) (here : expected key (store.lookup key))
    (fits : ∀ other ∈ rest, property other (store.lookup other))
    (visited : visit store key = (.ok count, middle)) :
    ∀ other ∈ rest, property other (middle.lookup other) := by
  intro other mem
  have apart : other ≠ key := fun same => outside (same ▸ mem)
  rw [visits.elsewhere here visited apart]
  exact fits other mem

theorem lookup_pass :
    ∀ {store after : Store K V} {count : Nat}, keys.Nodup →
      (∀ key ∈ keys, expected key (store.lookup key)) →
      pass visit store keys = (.ok count, after) →
        ∀ key, (key ∈ keys → effect key (store.lookup key) (after.lookup key)) ∧
          (key ∉ keys → after.lookup key = store.lookup key) := by
  induction keys with
  | nil =>
    intro store after count _ _ done key
    cases done
    exact ⟨nofun, fun _ => rfl⟩
  | cons first rest ih =>
    intro store after count distinct fits done key
    obtain ⟨_, middle, _, visited, later⟩ := andThen_eq_ok done
    rw [List.nodup_cons] at distinct
    obtain ⟨here, fits⟩ := List.forall_mem_cons.mp fits
    have after := ih distinct.2 (visits.ahead distinct.1 here fits visited) later key
    by_cases own : key = first
    · subst own
      rw [after.2 distinct.1]
      exact ⟨fun _ => visits.own here visited, fun outside => absurd List.mem_cons_self outside⟩
    · rw [← visits.elsewhere here visited own]
      simpa [own] using after

/-- A pass that is cut short has had its effect on some of the entries that it visits, and has left
the others alone. -/
theorem lookup_of_mem_trace
    (halts : ∀ {store after key error}, visit store key = (.error error, after) → after = store) :
    ∀ {store middle : Store K V}, keys.Nodup →
      (∀ key ∈ keys, expected key (store.lookup key)) → middle ∈ trace visit store keys →
        ∀ key, middle.lookup key = store.lookup key ∨
          key ∈ keys ∧ effect key (store.lookup key) (middle.lookup key) := by
  induction keys with
  | nil =>
    intro store middle _ _ reached key
    rw [List.mem_singleton.mp reached]
    exact .inl rfl
  | cons first rest ih =>
    intro store middle distinct fits reached key
    rw [List.nodup_cons] at distinct
    obtain ⟨here, fits⟩ := List.forall_mem_cons.mp fits
    rcases List.mem_cons.mp reached with rfl | reached
    · exact .inl rfl
    · rcases visited : visit store first with ⟨result, after⟩
      rw [visited] at reached
      cases result with
      | error error =>
        rw [List.mem_singleton.mp reached, halts visited]
        exact .inl rfl
      | ok count =>
        have cut := ih distinct.2 (visits.ahead distinct.1 here fits visited) reached key
        by_cases own : key = first
        · subst own
          rw [cut.resolve_right fun later => distinct.1 later.1]
          exact .inr ⟨List.mem_cons_self, visits.own here visited⟩
        · rw [← visits.elsewhere here visited own]
          exact cut.imp_right fun later => ⟨List.mem_cons_of_mem _ later.1, later.2⟩

theorem pass_succeeds {ready : K → Option V → Prop}
    (able : ∀ {store key}, expected key (store.lookup key) → ready key (store.lookup key) →
      ∃ count after, visit store key = (.ok count, after)) :
    ∀ {store : Store K V}, keys.Nodup → (∀ key ∈ keys, expected key (store.lookup key)) →
      (∀ key ∈ keys, ready key (store.lookup key)) →
        ∃ count after, pass visit store keys = (.ok count, after) := by
  induction keys with
  | nil =>
    intro store _ _ _
    exact ⟨0, store, rfl⟩
  | cons first rest ih =>
    intro store distinct fits readies
    rw [List.nodup_cons] at distinct
    obtain ⟨here, fits⟩ := List.forall_mem_cons.mp fits
    obtain ⟨now, readies⟩ := List.forall_mem_cons.mp readies
    obtain ⟨count, middle, visited⟩ := able here now
    obtain ⟨more, after, later⟩ := ih distinct.2 (visits.ahead distinct.1 here fits visited)
      (visits.ahead distinct.1 here readies visited)
    refine ⟨count + more, after, ?_⟩
    rw [pass, visited, andThen, later]

end

/-! Passes over the chosen entries of a store. -/

section

variable {visit : Store K V → K → Outcome Error K V} {expected : K → Option V → Prop}
  {effect : K → Option V → Option V → Prop} {chosen first second : K → Bool} {keys : List K}
  {store middle after : Store K V}

def Sweeps (effect : K → Option V → Option V → Prop) (chosen : K → Bool)
    (store after : Store K V) : Prop :=
  ∀ key,
    (chosen key = true → (store.lookup key).isSome = true →
      effect key (store.lookup key) (after.lookup key)) ∧
    (chosen key = false ∨ store.lookup key = none → after.lookup key = store.lookup key)

def Begun (effect : K → Option V → Option V → Prop) (chosen : K → Bool)
    (store middle : Store K V) : Prop :=
  ∀ key, middle.lookup key = store.lookup key ∨
    chosen key = true ∧ effect key (store.lookup key) (middle.lookup key)

theorem Sweeps.begun (sweeps : Sweeps effect chosen store after) :
    Begun effect chosen store after := by
  intro key
  cases picked : chosen key with
  | false => exact .inl ((sweeps key).2 (.inl picked))
  | true =>
    cases found : store.lookup key with
    | none =>
      rw [← found]
      exact .inl ((sweeps key).2 (.inr found))
    | some value =>
      rw [← found]
      exact .inr ⟨rfl, (sweeps key).1 picked (found ▸ rfl)⟩

theorem Begun.mono (begun : Begun effect first store middle)
    (wider : ∀ key, first key = true → second key = true) : Begun effect second store middle := by
  intro key
  rcases begun key with same | ⟨picked, done⟩
  · exact .inl same
  · exact .inr ⟨wider key picked, done⟩

theorem Sweeps.trans (start : Sweeps effect first store middle)
    (rest : Sweeps effect second middle after)
    (apart : ∀ key, first key = true → second key = false) :
    Sweeps effect (fun key => first key || second key) store after := by
  intro key
  dsimp only
  cases picked : first key with
  | true =>
    have either := start key
    rw [picked] at either
    rw [(rest key).2 (.inl (apart key picked))]
    exact either
  | false =>
    rw [← (start key).2 (.inl picked)]
    exact rest key

theorem Sweeps.then_begun (start : Sweeps effect first store middle)
    (rest : Begun effect second middle after)
    (apart : ∀ key, first key = true → second key = false) :
    Begun effect (fun key => first key || second key) store after := by
  intro key
  dsimp only
  rcases rest key with same | ⟨picked, done⟩
  · rw [same]
    rcases start.begun key with same | ⟨picked, done⟩
    · exact .inl same
    · exact .inr ⟨by rw [picked, Bool.true_or], done⟩
  · have unpicked : first key = false := by
      by_contra both
      rw [apart key (Bool.not_eq_false _ ▸ both)] at picked
      cases picked
    rw [(start key).2 (.inl unpicked)] at done
    exact .inr ⟨by rw [picked, Bool.or_true], done⟩

def Lists (chosen : K → Bool) (store : Store K V) (keys : List K) : Prop :=
  keys.Nodup ∧ ∀ key, key ∈ keys ↔ chosen key = true ∧ (store.lookup key).isSome = true

section
variable (visits : Visits visit expected effect) (lists : Lists chosen store keys)
include lists

theorem Lists.fits
    (fits : ∀ key, chosen key = true → (store.lookup key).isSome = true →
      expected key (store.lookup key)) :
    ∀ key ∈ keys, expected key (store.lookup key) := by
  intro key mem
  obtain ⟨picked, present⟩ := (lists.2 key).mp mem
  exact fits key picked present

variable (fits : ∀ key, chosen key = true → (store.lookup key).isSome = true →
  expected key (store.lookup key))
include visits fits

theorem sweeps_pass (done : pass visit store keys = (.ok count, after)) :
    Sweeps effect chosen store after := by
  intro key
  obtain ⟨inside, outside⟩ := lookup_pass visits lists.1 (lists.fits fits) done key
  refine ⟨fun picked present => inside ((lists.2 key).mpr ⟨picked, present⟩), ?_⟩
  intro unlisted
  apply outside
  intro mem
  obtain ⟨picked, present⟩ := (lists.2 key).mp mem
  rcases unlisted with outside | absent
  · rw [picked] at outside
    cases outside
  · rw [absent] at present
    cases present

theorem sweep_succeeds {ready : K → Option V → Prop}
    (able : ∀ {store key}, expected key (store.lookup key) → ready key (store.lookup key) →
      ∃ count after, visit store key = (.ok count, after))
    (readies : ∀ key, chosen key = true → (store.lookup key).isSome = true →
      ready key (store.lookup key)) :
    ∃ count after, pass visit store keys = (.ok count, after) :=
  pass_succeeds visits able lists.1 (lists.fits fits) (lists.fits readies)

theorem begun_of_mem_trace
    (halts : ∀ {store after key error}, visit store key = (.error error, after) → after = store)
    (reached : middle ∈ trace visit store keys) : Begun effect chosen store middle := by
  intro key
  rcases lookup_of_mem_trace visits halts lists.1 (lists.fits fits) reached key with
    same | ⟨listed, done⟩
  · exact .inl same
  · exact .inr ⟨((lists.2 key).mp listed).1, done⟩

end

end

end Fetchit.Lib.Pass
