import TenantLoad.Decimal.Reader

/-!
# Decimal numerals

A numeral has digits with an optional point among them and an optional power
of ten.  The float of a numeral is the nearest one.
-/

namespace TenantLoad
namespace Decimal

/-- The number that decimal digits are, if there are any. -/
def digits? (digits : List Char) : Option Nat :=
  if digits.isEmpty ∨ !digits.all Char.isDigit then none
  else some (digits.foldl (fun value digit => 10 * value + (digit.toNat - '0'.toNat)) 0)

/-- The number that digits with a sign in front of them are. -/
def power? (characters : List Char) : Option Int :=
  match characters with
  | '-' :: digits => (digits? digits).map fun value => -(value : Int)
  | '+' :: digits => (digits? digits).map Int.ofNat
  | digits => (digits? digits).map Int.ofNat

/-- The coefficient and the power of ten of a numeral without a sign. -/
def numeral? (characters : List Char) : Option (Nat × Int) := do
  let (whole, rest) := characters.span Char.isDigit
  let (fraction, rest) :=
    match rest with
    | '.' :: rest => rest.span Char.isDigit
    | _ => ([], rest)
  let coefficient ← digits? (whole ++ fraction)
  let power ←
    match rest with
    | [] => some 0
    | mark :: rest => if mark = 'e' ∨ mark = 'E' then power? rest else none
  return (coefficient, power - fraction.length)

/-- The float of a text without a sign: of a numeral or of a name. -/
def unsignedOfText? (characters : List Char) : Option Float :=
  let name := String.ofList (characters.map Char.toLower)
  if name = "nan" then some (0.0 / 0.0)
  else if name = "inf" ∨ name = "infinity" then some (1.0 / 0.0)
  else (numeral? characters).map fun (coefficient, power) => nearest coefficient power

/-- The bits of the float that a text is; a sign sets or leaves the first
bit, that of a name included. -/
def bitsOfText? (text : String) : Option UInt64 :=
  let bits (characters : List Char) : Option UInt64 :=
    (unsignedOfText? characters).map fun value => value.toBits &&& 0x7FFFFFFFFFFFFFFF
  match text.toList with
  | '-' :: rest => (bits rest).map (0x8000000000000000 ||| ·)
  | '+' :: rest => bits rest
  | rest => bits rest

end Decimal
end TenantLoad
