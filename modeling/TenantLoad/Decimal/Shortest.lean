import TenantLoad.Decimal.Binary

/-!
# The fewest digits that read back

A decimal reads back as a float when it lies in the interval of values that
round to that float.  For one, two, … seventeen digits the two neighbours of
the value on that decimal grid are tested in exact arithmetic; the first grid
with a hit gives the digits, and of two hits the nearer one.
-/

namespace TenantLoad
namespace Decimal

/-- A value `coefficient * 10 ^ exponent`. -/
structure Scientific where
  coefficient : Nat
  exponent : Int
  deriving Repr, DecidableEq

namespace Scientific

/-- The decimal digits of the coefficient. -/
def digits (value : Scientific) : List Char := Nat.toDigits 10 value.coefficient

/-- The exponent of the first digit. -/
def leadingExponent (value : Scientific) : Int :=
  value.exponent + value.digits.length - 1

/-- Move trailing zeros of the coefficient into the exponent. -/
def normalize (value : Scientific) : Scientific :=
  go value.digits.length value
where
  /-- Strip at most so many zeros. -/
  go : Nat → Scientific → Scientific
    | 0, value => value
    | steps + 1, value =>
      if value.coefficient ≠ 0 ∧ value.coefficient % 10 = 0 then
        go steps ⟨value.coefficient / 10, value.exponent + 1⟩
      else
        value

end Scientific

/-- A float's value and its interval of rounding, over one denominator. -/
structure Neighbourhood where
  lower : Nat
  value : Nat
  upper : Nat
  denominator : Nat
  /-- Whether the ends of the interval round to the value. -/
  closed : Bool

namespace Neighbourhood

/-- The interval of a float: half a unit to each side, a quarter below a
power of two; the ends belong to it when the significand is even. -/
def ofBinary (binary : Binary) : Neighbourhood :=
  let scale := Nat.pow 2 (binary.exponent - 2).toNat
  let below :=
    if binary.significand = 0x10000000000000 ∧ binary.exponent ≠ -1074 then 1 else 2
  { lower := (4 * binary.significand - below) * scale
    value := 4 * binary.significand * scale
    upper := (4 * binary.significand + 2) * scale
    denominator := Nat.pow 2 (2 - binary.exponent).toNat
    closed := binary.significand % 2 = 0 }

/-- Whether `candidate * 10 ^ exponent` reads back. -/
def contains (interval : Neighbourhood) (candidate : Nat) (exponent : Int) : Bool :=
  let point := candidate * Nat.pow 10 exponent.toNat * interval.denominator
  let scale := Nat.pow 10 (-exponent).toNat
  if interval.closed then
    interval.lower * scale ≤ point && point ≤ interval.upper * scale
  else
    interval.lower * scale < point && point < interval.upper * scale

/-- The exponent of the first decimal digit of the value. -/
def leadingExponent (interval : Neighbourhood) : Int :=
  let guess : Int :=
    (Nat.toDigits 10 interval.value).length - (Nat.toDigits 10 interval.denominator).length
  if interval.value * Nat.pow 10 (-guess).toNat < interval.denominator * Nat.pow 10 guess.toNat then
    guess - 1
  else
    guess

/-- The best point of the grid of `10 ^ exponent` that reads back. -/
def onGrid? (interval : Neighbourhood) (exponent : Int) : Option Scientific :=
  let numerator := interval.value * Nat.pow 10 (-exponent).toNat
  let denominator := interval.denominator * Nat.pow 10 exponent.toNat
  let below := numerator / denominator
  let remainder := numerator % denominator
  match interval.contains below exponent, interval.contains (below + 1) exponent with
  | true, false => some ⟨below, exponent⟩
  | false, true => some ⟨below + 1, exponent⟩
  | false, false => none
  | true, true =>
    if 2 * remainder < denominator ∨ (2 * remainder = denominator ∧ below % 2 = 0) then
      some ⟨below, exponent⟩
    else
      some ⟨below + 1, exponent⟩

/-- Try the grids of so many digits and finer. -/
def onGrids (interval : Neighbourhood) (leading : Int) : Nat → Nat → Scientific
  | 0, _ => ⟨0, 0⟩
  | grids + 1, digits =>
    match interval.onGrid? (leading - digits) with
    | some result => result.normalize
    | none => onGrids interval leading grids (digits + 1)

end Neighbourhood

/-- The shortest decimal that reads back as a nonzero finite float. -/
def shortest (binary : Binary) : Scientific :=
  if binary.significand = 0 then
    ⟨0, 0⟩
  else
    let interval := Neighbourhood.ofBinary binary
    interval.onGrids interval.leadingExponent 18 0

end Decimal
end TenantLoad
