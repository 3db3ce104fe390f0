/-!
# Results of steps that may fail

* `of_bind_eq_ok` — two steps succeed only if both do.
* `exists_of_isOk` — what a step gave that succeeded.
* `mapError_ok`, `mapError_error` — an error that is given another name.
-/

namespace Reconcile

variable {ε ε' α β : Type}

/-- What a step gives that comes after another one. -/
theorem of_bind_eq_ok {x : Except ε α} {f : α → Except ε β} {b : β}
    (h : (x >>= f) = .ok b) : ∃ a, x = .ok a ∧ f a = .ok b := by
  cases x with
  | error e => cases h
  | ok a => exact ⟨a, rfl, h⟩

theorem exists_of_isOk {x : Except ε α} (h : x.isOk = true) : ∃ a, x = .ok a := by
  cases x with
  | error e => cases h
  | ok a => exact ⟨a, rfl⟩

section MapError

variable (f : ε → ε')

@[simp] theorem mapError_ok (a : α) : (Except.ok a : Except ε α).mapError f = .ok a := rfl

@[simp] theorem mapError_error (e : ε) : (Except.error e : Except ε α).mapError f = .error (f e) :=
  rfl

end MapError

end Reconcile
