import Mathlib.Control.Monad.Basic

/-!
# Steps that may fail

Steps one after another succeed exactly if each of them does.
-/

namespace TenantLoad

variable {Fault OtherFault Value Result : Type}

@[simp]
theorem Except.ok_bind
    {value : Value}
    {next : Value → Except Fault Result} :
    (Except.ok value >>= next) = next value :=
  rfl

@[simp]
theorem Except.error_bind
    {fault : Fault}
    {next : Value → Except Fault Result} :
    (Except.error fault >>= next) = .error fault :=
  rfl

@[simp]
theorem Except.throw_eq
    {fault : Fault} :
    (throw fault : Except Fault Value) = .error fault :=
  rfl

theorem Except.bind_eq_ok_iff
    {step : Except Fault Value}
    {next : Value → Except Fault Result}
    {result : Result} :
    step >>= next = .ok result ↔ ∃ value, step = .ok value ∧ next value = .ok result := by
  cases step with
  | error fault => simp [bind, Except.bind]
  | ok value => simp [bind, Except.bind]

theorem Except.pure_eq_ok_iff
    {value result : Value} :
    (pure value : Except Fault Value) = .ok result ↔ value = result := by
  simp [pure, Except.pure]

theorem Except.mapError_eq_ok_iff
    {step : Except Fault Value}
    {change : Fault → OtherFault}
    {value : Value} :
    step.mapError change = .ok value ↔ step = .ok value := by
  cases step <;> simp [Except.mapError]

/-- A step that does not succeed fails. -/
theorem Except.exists_error_iff
    {step : Except Fault Value} :
    (∃ fault, step = .error fault) ↔ ∀ value, step ≠ .ok value := by
  cases step <;> simp

end TenantLoad
