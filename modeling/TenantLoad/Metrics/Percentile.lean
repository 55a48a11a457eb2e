import TenantLoad.Quantity

/-!
# Interpolated percentiles

With `k = (n - 1) * q` the percentile lies between the order statistics at
the floor and at the ceiling of `k`.
-/

namespace TenantLoad
namespace Metrics

variable {Value : Type} [Quantity Value]

/-- The percentile `q` of values in ascending order; `nothing` stands for the
percentile of no values. -/
def percentile (nothing : Value) (sorted : Array Value) (q : Value) : Value :=
  if sorted.isEmpty then
    nothing
  else
    let k := Quantity.ofNat (sorted.size - 1) * Quantity.clamp q
    let low := Quantity.floor k
    let high := Quantity.ceil k
    if Quantity.same low high then
      sorted.getD (Quantity.toNat k) nothing
    else
      sorted.getD (Quantity.toNat low) nothing * (high - k) +
        sorted.getD (Quantity.toNat high) nothing * (k - low)

/-- The float that is not a number. -/
def notANumber : Float := 0.0 / 0.0

end Metrics
end TenantLoad
