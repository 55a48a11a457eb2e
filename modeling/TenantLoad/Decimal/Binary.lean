/-!
# Floating-point values as exact binary fractions

The finite values of a 64-bit float are read as `significand * 2 ^ exponent`
with whole numbers, and every text of a float is computed from that pair in
exact arithmetic.
-/

namespace TenantLoad
namespace Decimal

/-- A nonnegative value `significand * 2 ^ exponent`. -/
structure Binary where
  significand : Nat
  exponent : Int
  deriving Repr, DecidableEq

namespace Binary

/-- The stored exponent of the bits of a float. -/
def storedExponent (bits : UInt64) : Nat := ((bits >>> 52) &&& 0x7ff).toNat

/-- The stored fraction of the bits of a float. -/
def storedFraction (bits : UInt64) : Nat := (bits &&& 0xfffffffffffff).toNat

/-- The magnitude of the finite float with the given bits. -/
def ofBits (bits : UInt64) : Binary :=
  if storedExponent bits = 0 then
    ⟨storedFraction bits, -1074⟩
  else
    ⟨0x10000000000000 + storedFraction bits, (storedExponent bits : Int) - 1075⟩

/-- The numerator of the value, in lowest powers of two. -/
def numerator (value : Binary) : Nat := value.significand * Nat.pow 2 value.exponent.toNat

/-- The denominator of the value. -/
def denominator (value : Binary) : Nat := Nat.pow 2 (-value.exponent).toNat

end Binary

/-- The sign bit of a float's bits. -/
def isNegative (bits : UInt64) : Bool := bits >>> 63 == 1

/-- Infinities and NaNs have the greatest stored exponent. -/
def isFinite (bits : UInt64) : Bool := Binary.storedExponent bits != 0x7ff

/-- A NaN has the greatest stored exponent and a fraction. -/
def isNotANumber (bits : UInt64) : Bool :=
  Binary.storedExponent bits == 0x7ff && Binary.storedFraction bits != 0

end Decimal
end TenantLoad
