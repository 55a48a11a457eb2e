import TenantLoad.Decimal.Numeral
import TenantLoad.Yaml.Scalar.Quoted

/-!
# What plain words mean

A plain word may stand for nothing, for a truth value or for a number.
Whole numbers are decimal without further zeros in front, or marked as
hexadecimal, octal or binary.
-/

namespace TenantLoad
namespace Yaml
namespace Word

/-- Whether a word stands for the absence of a value. -/
def isNull (word : String) : Bool := ["null", "Null", "NULL", "~"].contains word

/-- The truth value that a word is. -/
def boolean? (word : String) : Option Bool :=
  if ["true", "True", "TRUE"].contains word then some true
  else if ["false", "False", "FALSE"].contains word then some false
  else none

/-- The number that digits of a base are, if there are any. -/
def digitsValue? (base : Nat) (digits : List Char) : Option Nat :=
  if digits.isEmpty then none
  else
    digits.foldlM (fun value digit =>
      ((Quoted.digitValue? digit).filter (· < base)).map (base * value + ·)) 0

/-- Whether characters are digits after a sign, the first of several a zero. -/
def hasLeadingZero (characters : List Char) : Bool :=
  let digits :=
    match characters with
    | '+' :: rest | '-' :: rest => rest
    | _ => characters
  digits.length > 1 && digits.head? == some '0' && digits.all Char.isDigit

/-- The number of digits that a mark gives the base of. -/
def marked? (characters : List Char) : Option Nat :=
  match characters with
  | '0' :: 'x' :: digits => digitsValue? 16 digits
  | '0' :: 'o' :: digits => digitsValue? 8 digits
  | '0' :: 'b' :: digits => digitsValue? 2 digits
  | _ => none

/-- The number without a sign that a word is; a plus sign may stand in front. -/
def unsigned? (word : String) : Option Nat :=
  let characters := word.toList
  let digits :=
    match characters with
    | '+' :: rest => rest
    | _ => characters
  match marked? digits with
  | some value => some value
  | none => if hasLeadingZero characters then none else digitsValue? 10 digits

/-- The number whose negative a word is. -/
def negated? (word : String) : Option Nat :=
  match word.toList with
  | '-' :: digits =>
    match marked? digits with
    | some value => some value
    | none => if hasLeadingZero ('-' :: digits) then none else digitsValue? 10 digits
  | _ => none

/-- The characters after a minus sign. -/
def withoutMinus (characters : List Char) : List Char :=
  match characters with
  | '-' :: rest => rest
  | _ => characters

/-- Whether a word is a number with a fraction or a power of ten, infinite or
no number. -/
def isReal (word : String) : Bool :=
  let unsigned := if word.startsWith "+" then (word.drop 1).toString else word
  if word.startsWith "+" && (unsigned.startsWith "+" || unsigned.startsWith "-") then false
  else
    [".inf", ".Inf", ".INF"].contains unsigned ||
      ["-.inf", "-.Inf", "-.INF", ".nan", ".NaN", ".NAN"].contains word ||
      (Decimal.numeral? (withoutMinus unsigned.toList)).any fun (coefficient, power) =>
        !(Decimal.nearest coefficient power).isInf

/-- Whether a word would be read as something else than text, or looks so
much like a number that it is better quoted. -/
def isAmbiguous (word : String) : Bool :=
  word.isEmpty || isNull word || (boolean? word).isSome ||
    (unsigned? word).any (· < 0x100000000000000000000000000000000) || (negated? word).any (· ≤ 0x80000000000000000000000000000000) ||
    hasLeadingZero word.toList || isReal word

end Word
end Yaml
end TenantLoad
