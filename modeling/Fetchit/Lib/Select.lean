import Mathlib.Data.List.Sort
import Mathlib.Order.Basic
import Mathlib.Logic.Function.Basic

/-! Selection by rank from a keyed store: the first element of a list sorted by descending
rank, its description on the store, and what one write does to the selected value. -/
namespace Fetchit.Lib.Select
open Function

section
variable {V R : Type*} [LinearOrder R] (rank : V → R)

/-- The first value in descending order of rank; the sort is stable. -/
def pick (values : List V) : Option V :=
  (values.insertionSort fun first second => rank second ≤ rank first).head?

theorem pick_eq_none : pick rank values = none ↔ values = [] := by
  unfold pick
  rw [List.head?_eq_none_iff, ← List.length_eq_zero_iff, List.length_insertionSort,
    List.length_eq_zero_iff]

variable {value : V} {next : Option V}

theorem pick_eq_some (h : pick rank values = some value) :
    value ∈ values ∧ ∀ other ∈ values, rank other ≤ rank value := by
  have sorted := List.pairwise_insertionSort (fun first second => rank second ≤ rank first) values
  have perm := List.perm_insertionSort (fun first second => rank second ≤ rank first) values
  unfold pick at h
  cases hs : values.insertionSort fun first second => rank second ≤ rank first with
  | nil =>
    rw [hs] at h
    cases h
  | cons first rest =>
    rw [hs] at h sorted perm
    cases h
    refine ⟨perm.mem_iff.mp List.mem_cons_self, ?_⟩
    intro other mem
    rcases List.mem_cons.mp (perm.mem_iff.mpr mem) with rfl | later
    · exact le_refl _
    · exact (List.pairwise_cons.mp sorted).1 other later

variable {K I : Type*} [DecidableEq K] (stored : K → Option V) (qualifies : V → Prop)

def Best : Option V → Prop
  | none => ∀ key value, stored key = some value → ¬ qualifies value
  | some value => (∃ key, stored key = some value) ∧ qualifies value ∧
      ∀ key other, stored key = some other → qualifies other → rank other ≤ rank value

variable (keyOf : V → K) (identity : V → I)

def Keeps (written : V) : Option V → Prop
  | none => ¬ qualifies written
  | some current =>
    if keyOf written = keyOf current then
      qualifies written ∧ identity written = identity current ∧
        ∀ key other, key ≠ keyOf current → stored key = some other → qualifies other →
          rank other ≤ rank written
    else qualifies written → rank written ≤ rank current

variable {rank stored qualifies keyOf identity} {written : V}
  (keyed : ∀ key value, stored key = some value → keyOf value = key)
  (ranks : ∀ first second, rank first = rank second → keyOf first = keyOf second)
  (identifies : ∀ first second, identity first = identity second → keyOf first = keyOf second)
include keyed

omit [DecidableEq K] in
include ranks in
theorem Best.unique (hfirst : Best rank stored qualifies first)
    (hsecond : Best rank stored qualifies second) : first = second := by
  cases first with
  | none =>
    cases second with
    | none => rfl
    | some value =>
      obtain ⟨⟨key, held⟩, qualified, _⟩ := hsecond
      exact absurd qualified (hfirst key value held)
  | some value =>
    obtain ⟨⟨key, held⟩, qualified, highest⟩ := hfirst
    cases second with
    | none => exact absurd qualified (hsecond key value held)
    | some other =>
      obtain ⟨⟨key', held'⟩, qualified', highest'⟩ := hsecond
      have same := ranks value other
        (le_antisymm (highest' key value held qualified) (highest key' other held' qualified'))
      rw [keyed key value held, keyed key' other held'] at same
      subst same
      exact held.symm.trans held'

theorem update_eq_some (h : update stored (keyOf written) (some written) key = some value) :
    value = written ∨ keyOf value ≠ keyOf written ∧ stored (keyOf value) = some value := by
  by_cases at_key : key = keyOf written
  · subst at_key
    rw [update_self] at h
    exact .inl (Option.some.inj h).symm
  · rw [update_of_ne at_key] at h
    have own := keyed key value h
    subst own
    exact .inr ⟨at_key, h⟩

omit keyed in
theorem update_of_other (other : keyOf value ≠ keyOf written)
    (h : stored (keyOf value) = some value) :
    update stored (keyOf written) (some written) (keyOf value) = some value := by
  rw [update_of_ne other, h]

theorem same_identity_of_none (before : Best rank stored qualifies none)
    (after : Best rank (update stored (keyOf written) (some written)) qualifies next) :
    next.map identity = none ↔ ¬ qualifies written := by
  cases next with
  | none =>
    simp only [Option.map_none, true_iff]
    exact after (keyOf written) written (update_self ..)
  | some value =>
    obtain ⟨⟨key, held⟩, qualified, _⟩ := after
    simp only [Option.map_some, reduceCtorEq, false_iff]
    rcases update_eq_some keyed held with rfl | ⟨_, earlier⟩
    · exact not_not_intro qualified
    · exact absurd qualified (before _ value earlier)

include ranks identifies

theorem same_identity_of_replaced (replaced : keyOf written = keyOf current)
    (after : Best rank (update stored (keyOf written) (some written)) qualifies next) :
    next.map identity = some (identity current) ↔
      qualifies written ∧ identity written = identity current ∧
        ∀ key other, key ≠ keyOf current → stored key = some other → qualifies other →
          rank other ≤ rank written := by
  constructor
  · intro same
    obtain ⟨value, rfl, agrees⟩ := Option.map_eq_some_iff.mp same
    obtain ⟨⟨key, held⟩, qualified, highest⟩ := after
    rcases update_eq_some keyed held with rfl | ⟨other, _⟩
    · refine ⟨qualified, agrees, ?_⟩
      intro key other elsewhere present eligible
      apply highest key other _ eligible
      rw [← replaced] at elsewhere
      rw [update_of_ne elsewhere, present]
    · exact absurd ((identifies value current agrees).trans replaced.symm) other
  · rintro ⟨qualified, agrees, highest⟩
    cases next with
    | none => exact absurd qualified (after (keyOf written) written (update_self ..))
    | some value =>
      obtain ⟨⟨key, held⟩, eligible, top⟩ := after
      rcases update_eq_some keyed held with rfl | ⟨other, present⟩
      · rw [Option.map_some, agrees]
      · have above := top (keyOf written) written (update_self ..) qualified
        have below := highest (keyOf value) value (replaced ▸ other) present eligible
        exact absurd (ranks value written (le_antisymm below above)) other

theorem same_identity_of_elsewhere
    (before : Best rank stored qualifies (some current)) (elsewhere : keyOf written ≠ keyOf current)
    (after : Best rank (update stored (keyOf written) (some written)) qualifies next) :
    next.map identity = some (identity current) ↔
      (qualifies written → rank written ≤ rank current) := by
  obtain ⟨⟨key, held⟩, qualified, highest⟩ := before
  have own := keyed key current held
  subst own
  have kept := update_of_other elsewhere.symm held
  constructor
  · intro same eligible
    obtain ⟨value, rfl, agrees⟩ := Option.map_eq_some_iff.mp same
    obtain ⟨⟨key, present⟩, _, top⟩ := after
    have named := identifies value current agrees
    rcases update_eq_some keyed present with rfl | ⟨_, earlier⟩
    · exact absurd named elsewhere
    · rw [named, held] at earlier
      cases earlier
      exact top (keyOf written) written (update_self ..) eligible
  · intro yields
    cases next with
    | none => exact absurd qualified (after (keyOf current) current kept)
    | some value =>
      obtain ⟨⟨key, present⟩, eligible, top⟩ := after
      have above := top (keyOf current) current kept qualified
      rcases update_eq_some keyed present with rfl | ⟨_, earlier⟩
      · exact absurd (ranks value current (le_antisymm (yields eligible) above)) elsewhere
      · have below := highest (keyOf value) value earlier eligible
        have named := ranks value current (le_antisymm below above)
        rw [named, held] at earlier
        cases earlier
        rfl

theorem same_identity_iff (before : Best rank stored qualifies current)
    (after : Best rank (update stored (keyOf written) (some written)) qualifies next) :
    next.map identity = current.map identity ↔
      Keeps rank stored qualifies keyOf identity written current := by
  cases current with
  | none => exact same_identity_of_none keyed before after
  | some current =>
    simp only [Keeps]
    split
    · rename_i replaced
      exact same_identity_of_replaced keyed ranks identifies replaced after
    · rename_i elsewhere
      exact same_identity_of_elsewhere keyed ranks identifies before elsewhere after

end

end Fetchit.Lib.Select
