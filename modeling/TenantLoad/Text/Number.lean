/-!
# Numbers in text

An unsigned number is written in decimal digits, with or without a plus sign
in front.  The first fault from the left is the one that is told.
-/

namespace TenantLoad
namespace Text

/-- Why a text is no number. -/
inductive NumberFault where
  | empty
  | digit
  | tooLarge
  deriving Repr, DecidableEq

/-- The text of a fault. -/
def NumberFault.message : NumberFault → String
  | .empty => "cannot parse integer from empty string"
  | .digit => "invalid digit found in string"
  | .tooLarge => "number too large to fit in target type"

/-- The number below a limit that digits continue. -/
def digitsNumber (limit : Nat) : Nat → List Char → Except NumberFault Nat
  | value, [] => .ok value
  | value, digit :: rest =>
    if digit.isDigit then
      let value := 10 * value + (digit.toNat - '0'.toNat)
      if value < limit then digitsNumber limit value rest else .error .tooLarge
    else .error .digit

/-- The number of so many bits that a text is. -/
def number (bits : Nat) (text : String) : Except NumberFault Nat :=
  match text.toList with
  | [] => .error .empty
  | ['+'] => .error .digit
  | '+' :: digits => digitsNumber (Nat.pow 2 bits) 0 digits
  | digits => digitsNumber (Nat.pow 2 bits) 0 digits

/-- A number is written in digits. -/
theorem isDigit_of_mem_repr {number : Nat} {character : Char}
    (member : character ∈ number.repr.toList) : character.isDigit = true := by
  rw [Nat.repr_eq_ofList_toDigits, String.toList_ofList] at member
  exact Nat.isDigit_of_mem_toDigits (by decide) (by decide) member

/-- Different numbers are written differently. -/
theorem repr_inj {number other : Nat} : number.repr = other.repr ↔ number = other := by
  constructor
  · intro same
    rw [← String.toList_inj, Nat.toList_repr, Nat.toList_repr] at same
    rw [← Nat.ofDigitChars_ten_toDigits (n := number), same, Nat.ofDigitChars_ten_toDigits]
  · rintro rfl
    rfl

/-- The word of 64 bits that a text is. -/
def word64 (text : String) : Except NumberFault UInt64 := (number 64 text).map UInt64.ofNat

/-- The word of 32 bits that a text is. -/
def word32 (text : String) : Except NumberFault UInt32 := (number 32 text).map UInt32.ofNat

end Text
end TenantLoad
