import Mathlib.Data.Option.Basic

/-! One cell of a write-through cache over a slow store. An update holds a lock from the lookup
to the write and changes the cached and the stored value together; a read may later fill the
cache with a value that the store held at some moment. While every filled value is still the
stored one, a cell behaves as a single place on which the updates take effect one after
another. -/
namespace Fetchit.Lib

/-- The stored side of a cell: nothing, something that cannot be read, or a value. -/
inductive Slot (V : Type*) where
  | absent
  | broken
  | holds (value : V)

/-- What a cell holds when its two sides are seen as one place. -/
inductive Held (V : Type*) where
  | absent
  | broken
  | unsaved (value : V)
  | saved (value : V)

structure Cell (V : Type*) where
  cached : Option V
  disk : Slot V

variable {V : Type*}

def Slot.read : Slot V → Option V
  | .holds value => some value
  | _ => none

namespace Held

def base (missing : Option V) : Held V → Option V
  | .absent => missing
  | .broken => none
  | .unsaved value => some value
  | .saved value => some value

def mutate (missing : Option V) (change : V → Option V) : Held V → Held V
  | .absent =>
    match missing with
    | none => .absent
    | some value => (change value).elim (.unsaved value) .saved
  | .broken => .broken
  | .unsaved value => (change value).elim (.unsaved value) .saved
  | .saved value => .saved ((change value).getD value)

theorem mutate_of_change {held : Held V} (started : held.base missing = some value)
    (changes : change value = some new) : held.mutate missing change = .saved new := by
  cases held with
  | absent | unsaved | saved =>
    cases started
    simp [mutate, changes]
  | broken => cases started

end Held

namespace Cell

def view (cell : Cell V) : Held V :=
  match cell.cached, cell.disk with
  | some value, .absent => .unsaved value
  | some value, _ => .saved value
  | none, .absent => .absent
  | none, .broken => .broken
  | none, .holds value => .saved value

def base (cell : Cell V) (missing : Option V) : Option V :=
  match cell.cached, cell.disk with
  | some value, _ => some value
  | none, .holds value => some value
  | none, .broken => none
  | none, .absent => missing

def fill (cell : Cell V) (value : V) : Cell V :=
  { cell with cached := some value }

def mutate (missing : Option V) (change : V → Option V) (cell : Cell V) : Cell V :=
  match cell.base missing with
  | none => cell
  | some value =>
    match change value with
    | some new => ⟨some new, .holds new⟩
    | none => cell.fill value

def Coherent (cell : Cell V) : Prop :=
  ∀ value, cell.cached = some value → cell.disk = .absent ∨ cell.disk = .holds value

def Warms (before after : Cell V) : Prop :=
  after.cached = none → after = before

theorem warms_fill (cell : Cell V) (value : V) : cell.Warms (cell.fill value) := by
  intro cold
  cases cold

theorem warms_mutate (cell : Cell V) (missing : Option V) (change : V → Option V) :
    cell.Warms (cell.mutate missing change) := by
  unfold mutate
  split
  · exact fun _ => rfl
  · split
    · intro cold
      cases cold
    · exact cell.warms_fill _

theorem coherent_fill {cell : Cell V}
    (agrees : cell.disk = .absent ∨ cell.disk = .holds value) : (cell.fill value).Coherent := by
  intro other cached
  cases cached
  exact agrees

theorem base_view (cell : Cell V) (missing : Option V) :
    cell.view.base missing = cell.base missing := by
  obtain ⟨cached, disk⟩ := cell
  cases cached <;> cases disk <;> rfl

theorem base_mutate (cell : Cell V) (missing : Option V) (change : V → Option V) :
    (cell.mutate missing change).base missing =
      (cell.base missing).map fun value => (change value).getD value := by
  unfold mutate
  cases started : cell.base missing with
  | none => simp [started]
  | some value =>
    cases changed : change value with
    | none => simp [changed, fill, base]
    | some new => simp [changed, base]

namespace Coherent

variable {cell : Cell V} (coherent : cell.Coherent)
include coherent

variable {value : V}

theorem base (started : cell.base missing = some value) :
    cell.disk = .absent ∨ cell.disk = .holds value := by
  obtain ⟨cached, disk⟩ := cell
  cases cached with
  | some other =>
    cases started
    exact coherent value rfl
  | none =>
    cases disk with
    | absent => exact .inl rfl
    | broken => cases started
    | holds other =>
      cases started
      exact .inr rfl

section
variable (missing : Option V) (change : V → Option V)

theorem mutate :
    (cell.mutate missing change).Coherent := by
  unfold Cell.mutate
  split
  · exact coherent
  · rename_i value started
    split
    · intro other cached
      cases cached
      exact .inr rfl
    · exact coherent_fill (coherent.base started)

theorem view_mutate :
    (cell.mutate missing change).view = cell.view.mutate missing change := by
  obtain ⟨cached, disk⟩ := cell
  cases cached with
  | some value =>
    rcases coherent value rfl with absent | holds
    · cases absent
      simp only [Cell.mutate, Cell.base, Cell.view, Held.mutate]
      cases change value <;> rfl
    · cases holds
      simp only [Cell.mutate, Cell.base, Cell.view, Held.mutate]
      cases change value <;> rfl
  | none =>
    cases disk with
    | broken => rfl
    | holds value =>
      simp only [Cell.mutate, Cell.base, Cell.view, Held.mutate]
      cases change value <;> rfl
    | absent =>
      cases missing with
      | none => rfl
      | some value =>
        simp only [Cell.mutate, Cell.base, Held.mutate]
        cases change value <;> rfl

end

theorem view_fill (current : cell.disk = .holds value) :
    (cell.fill value).view = cell.view := by
  obtain ⟨cached, disk⟩ := cell
  cases current
  cases cached with
  | none => rfl
  | some other =>
    rcases coherent other rfl with absent | holds
    · cases absent
    · cases holds
      rfl

theorem disk_eq_holds_iff : cell.disk = .holds value ↔ cell.view = .saved value := by
  obtain ⟨cached, disk⟩ := cell
  cases cached with
  | some other => rcases coherent other rfl with same | same <;> cases same <;> simp [Cell.view]
  | none => cases disk <;> simp [Cell.view]

theorem of_cached (cached : cell.cached = some value) :
    cell.disk = .holds value ∨ cell.view = .unsaved value := by
  rcases coherent value cached with absent | holds
  · simp [Cell.view, cached, absent]
  · exact .inl holds

end Coherent

end Cell

end Fetchit.Lib
