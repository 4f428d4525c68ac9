import Mathlib.Data.List.Basic

/-! Inversion lemmas for fallible computations. -/
namespace Fetchit.Lib.Outcome

universe u
variable {ε ε' : Type*} {α β : Type u}

@[simp] theorem ok_bind (a : α) (f : α → Except ε β) : (Except.ok a >>= f) = f a := rfl

@[simp] theorem error_bind (e : ε) (f : α → Except ε β) :
    (Except.error e >>= f) = Except.error e := rfl

variable {x : Except ε α} {e error : ε} {a : α}

theorem bind_eq_ok {b : β} :
    (x >>= f) = .ok b ↔ ∃ a, x = .ok a ∧ f a = .ok b := by
  cases x with
  | error e =>
    constructor
    · intro h
      cases h
    · rintro ⟨a, h, _⟩
      cases h
  | ok a =>
    refine ⟨fun h => ⟨a, rfl, h⟩, ?_⟩
    rintro ⟨a', h, hf⟩
    cases h
    exact hf

theorem bind_eq_error {f : α → Except ε β} :
    (x >>= f) = .error e ↔ x = .error e ∨ ∃ a, x = .ok a ∧ f a = .error e := by
  cases x with
  | error | ok => simp

theorem mapError_eq_error {e : ε'} :
    x.mapError f = .error e ↔ ∃ e', x = .error e' ∧ f e' = e := by
  cases x <;> simp [Except.mapError]

theorem mapError_eq_ok {f : ε → ε'} :
    x.mapError f = .ok a ↔ x = .ok a := by
  cases x <;> simp [Except.mapError]

theorem toOption_eq_some : x.toOption = some a ↔ x = .ok a := by
  cases x <;> simp [Except.toOption]

theorem map_toOption_eq_some {b : β} :
    x.toOption.map f = some b ↔ ∃ a, x = .ok a ∧ f a = b := by
  cases x <;> simp [Except.toOption]

def okOr (x : Option α) (error : ε) : Except ε α :=
  match x with
  | some a => .ok a
  | none => .error error

@[simp] theorem okOr_eq_ok {x : Option α} :
    okOr x error = .ok a ↔ x = some a := by
  cases x <;> simp [okOr]

theorem okOr_eq_error {x : Option α} (h : okOr x error = .error e) : error = e := by
  cases x with
  | none => exact Except.error.inj h
  | some a => cases h

def require (check : Bool) (error : ε) : Except ε Unit :=
  if check then .ok () else .error error

@[simp] theorem require_eq_ok :
    require check error = .ok u ↔ check = true := by
  cases check <;> simp [require]

theorem require_eq_error (h : require check error = .error e) :
    error = e := by
  cases check with
  | false => exact Except.error.inj h
  | true => cases h

end Fetchit.Lib.Outcome
