/-!
# Decimal numerals as floats

Two ways to turn a numeral into a float: the nearest float of the exact
decimal, and the scaled significand, where the leading digits that fit a
64-bit word are rounded first and then scaled by one power of ten.
-/

namespace TenantLoad
namespace Decimal

/-- The nearest float to `coefficient * 10 ^ exponent`. -/
def nearest (coefficient : Nat) (exponent : Int) : Float :=
  if coefficient = 0 then 0.0
  else if 400 < exponent then 1.0 / 0.0
  else if exponent < -400 - (Nat.toDigits 10 coefficient).length then 0.0
  else if exponent < 0 then Float.ofScientific coefficient true exponent.natAbs
  else Float.ofScientific coefficient false exponent.natAbs

/-- The greatest power of ten that scales in one step. -/
def largestScale : Nat := 308

/-- Scale a float by a power of ten: a positive power in one step, a negative
one in steps of at most `10 ^ 308`.  There is no result when it overflows. -/
def scale (value : Float) (exponent : Int) : Option Float :=
  if value == 0.0 then some value
  else if 0 ≤ exponent then
    if exponent ≤ largestScale then
      let scaled := value * nearest 1 exponent
      if scaled.isInf then none else some scaled
    else
      none
  else
    some (shrink value exponent.natAbs exponent.natAbs)
where
  /-- Divide by `10 ^ exponent` in steps. -/
  shrink (value : Float) (exponent : Nat) : Nat → Float
    | 0 => value
    | steps + 1 =>
      if value == 0.0 then value
      else if exponent ≤ largestScale then value / nearest 1 exponent
      else shrink (value / nearest 1 largestScale) (exponent - largestScale) steps

/-- The float of a significand that fits a 64-bit word and a power of ten. -/
def scaledSignificand (significand : Nat) (exponent : Int) : Option Float :=
  scale (UInt64.ofNat significand).toFloat exponent

end Decimal
end TenantLoad
