import TenantLoad.Config.Validation
import TenantLoad.Proofs.Except

/-!
# Values that pass their checks

What holds of a value exactly if its check gives no error.
-/

namespace TenantLoad
namespace Config
namespace Check

variable {domain message value field : String} {condition : Bool}

theorem require_eq_ok_iff :
    require domain condition message = .ok () ↔ condition = true := by
  cases condition <;> simp [require]

/-- A URL is fine if it can be read and its scheme is one that services are reached
by. -/
theorem url_eq_ok_iff :
    url value field domain = .ok () ↔
      isBlank value = false ∧
        ∃ own, Url.parse value = .ok own ∧ schemes.contains own.scheme = true := by
  unfold url filled
  cases isBlank value with
  | true => simp [require]
  | false => cases Url.parse value <;> simp [require]

/-- Services are reached by special schemes that are not that of local files. -/
theorem special_of_schemes
    {own : Url}
    (isScheme : schemes.contains own.scheme = true) :
    own.isSpecial = true ∧ own.scheme ≠ Url.fileScheme := by
  have isHttp : own.scheme = "http" ∨ own.scheme = "https" := by
    simpa [schemes] using isScheme
  rcases isHttp with scheme | scheme <;> rw [Url.isSpecial, scheme] <;> decide

/-- Bounds are fine unless the lower one exceeds the upper one. -/
theorem ordered_eq_ok_iff
    {Value : Type}
    [Bounded Value]
    {least most : Value} :
    ordered least most field domain = .ok () ↔ Bounded.exceeds least most = false := by
  rw [ordered, require_eq_ok_iff, Bool.not_eq_true']

theorem pattern_eq_ok_iff :
    pattern value field domain = .ok () ↔ (Pattern.read? false value).isSome = true :=
  require_eq_ok_iff

end Check
end Config
end TenantLoad
