import TenantLoad.Decimal.Shortest

/-!
# How a float is laid out in text

The digits of a float come from `TenantLoad.Decimal.shortest`; a layout says
where the point goes, when an exponent is written and how a whole number is
marked.  Fixed places round the exact binary value, a tie to the even digit.
-/

namespace TenantLoad
namespace Decimal

/-- The decisions of one textual form of floats. -/
structure Layout where
  /-- The leading exponents that are written without an exponent. -/
  isPlain : Int → Bool
  /-- What follows a whole number written without an exponent. -/
  wholeMark : String
  /-- What stands before a positive exponent. -/
  positiveExponent : String

namespace Layout

/-- Zeros, as many as asked for. -/
def zeros (count : Nat) : String := "".pushn '0' count

/-- Digits with a point after the leading exponent, without an exponent. -/
def plainText (layout : Layout) (value : Scientific) : String :=
  let digits := value.digits
  if 0 ≤ value.exponent then
    String.ofList digits ++ zeros value.exponent.toNat ++ layout.wholeMark
  else
    let places := (-value.exponent).toNat
    if places < digits.length then
      String.ofList (digits.take (digits.length - places)) ++ "." ++
        String.ofList (digits.drop (digits.length - places))
    else
      "0." ++ zeros (places - digits.length) ++ String.ofList digits

/-- One digit, a point, the others and an exponent. -/
def exponentText (layout : Layout) (value : Scientific) : String :=
  let digits := value.digits
  let fraction := digits.drop 1
  let mantissa :=
    if fraction.isEmpty then String.ofList digits
    else String.ofList (digits.take 1) ++ "." ++ String.ofList fraction
  let exponent := value.leadingExponent
  let sign := if exponent < 0 then "-" else layout.positiveExponent
  mantissa ++ "e" ++ sign ++ toString exponent.natAbs

/-- The text of a magnitude. -/
def magnitudeText (layout : Layout) (value : Scientific) : String :=
  if layout.isPlain value.leadingExponent then layout.plainText value
  else layout.exponentText value

/-- The text of the finite float with the given bits. -/
def finiteText (layout : Layout) (bits : UInt64) : String :=
  (if isNegative bits then "-" else "") ++ layout.magnitudeText (shortest (Binary.ofBits bits))

/-- The text of any float: a NaN carries no sign. -/
def text (layout : Layout) (bits : UInt64) : String :=
  if isNotANumber bits then "NaN"
  else if isFinite bits then layout.finiteText bits
  else if isNegative bits then "-inf"
  else "inf"

end Layout

/-- Floats within messages: never an exponent, no mark on a whole number. -/
def messageLayout : Layout := ⟨fun _ => true, "", ""⟩

/-- Floats within JSON: an exponent below `10 ^ -5` and from `10 ^ 16` on. -/
def jsonLayout : Layout :=
  ⟨fun exponent => decide (-5 ≤ exponent) && decide (exponent < 16), ".0", "+"⟩

/-- The quotient rounded to the nearest whole number, a tie to the even one. -/
def roundToEven (numerator denominator : Nat) : Nat :=
  let quotient := numerator / denominator
  let remainder := numerator % denominator
  if 2 * remainder < denominator then quotient
  else if denominator < 2 * remainder then quotient + 1
  else quotient + quotient % 2

/-- A whole number of units of the last place, with the point put back. -/
def withPlaces (places : Nat) (units : Nat) : String :=
  let digits := Nat.toDigits 10 units
  let padded := List.replicate (places + 1 - digits.length) '0' ++ digits
  String.ofList (padded.take (padded.length - places)) ++ "." ++
    String.ofList (padded.drop (padded.length - places))

/-- The text of a float with a fixed positive number of decimal places. -/
def fixedText (places : Nat) (bits : UInt64) : String :=
  if isNotANumber bits then "NaN"
  else if isFinite bits then
    let binary := Binary.ofBits bits
    (if isNegative bits then "-" else "") ++
      withPlaces places (roundToEven (binary.numerator * Nat.pow 10 places) binary.denominator)
  else if isNegative bits then "-inf"
  else "inf"

end Decimal
end TenantLoad
