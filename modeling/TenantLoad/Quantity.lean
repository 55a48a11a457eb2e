/-!
# Quantities

The operations that measured and drawn numbers need.  Rules about them are
stated once over any quantity, so that the floats of a run and exact
fractions follow the same definitions.
-/

namespace TenantLoad

/-- Numbers with the operations of measurements. -/
class Quantity (Value : Type) extends Add Value, Sub Value, Mul Value, Div Value where
  /-- A whole number. -/
  ofNat : Nat → Value
  /-- Whether the first number is less than the second. -/
  less : Value → Value → Bool
  /-- Whether two numbers are equal. -/
  same : Value → Value → Bool
  /-- The greatest whole number that is not greater. -/
  floor : Value → Value
  /-- The least whole number that is not less. -/
  ceil : Value → Value
  /-- The nearest whole number, a half away from zero. -/
  round : Value → Value
  /-- The natural number that a whole number stands for. -/
  toNat : Value → Nat
  /-- The next smaller number that can be written, where there is one. -/
  previous : Value → Value

namespace Quantity

variable {Value : Type} [Quantity Value]

/-- A number brought between zero and one. -/
def clamp (value : Value) : Value :=
  if less value (ofNat 0) then ofNat 0 else if less (ofNat 1) value then ofNat 1 else value

end Quantity

/-- Floats as quantities. -/
instance : Quantity Float where
  ofNat value := (UInt64.ofNat value).toFloat
  less left right := left < right
  same left right := left == right
  floor := Float.floor
  ceil := Float.ceil
  round := Float.round
  toNat value := value.toUInt64.toNat
  previous value := Float.ofBits (value.toBits - 1)

end TenantLoad
