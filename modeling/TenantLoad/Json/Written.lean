import TenantLoad.Json.Basic
import TenantLoad.Decimal.Reader

/-!
# JSON text as written

`Written` is a parsed text before it is read as a value: members keep their
order and repetitions, and a number or string that has no value is kept as
`none`, because such a part may still be skipped.  `Written.value?` reads it
as a value within a bound on the nesting; `Json.parse?` does both.
-/

namespace TenantLoad
namespace Json

/-- A number with its exact value, or the float that stands for it. -/
inductive Number where
  | integer (value : Int)
  | real (value : Float)

/-- A parsed JSON text.  `none` marks a number out of range and a string with
an unpaired surrogate. -/
inductive Written where
  | null
  | boolean (value : Bool)
  | number (value : Option Number)
  | text (value : Option String)
  | list (items : List Written)
  | object (members : List (Option String × Written))
  deriving Inhabited

namespace Written

/-- Blanks between tokens. -/
def isBlank (character : Char) : Bool :=
  character = ' ' || character = '\n' || character = '\t' || character = '\r'

/-- Drop leading blanks. -/
def skipBlanks (input : List Char) : List Char := input.dropWhile isBlank

/-! ## Numbers -/

/-- The value of decimal digits. -/
def digitsValue (digits : List Char) : Nat :=
  digits.foldl (fun value digit => value * 10 + (digit.toNat - '0'.toNat)) 0

/-- Read digits into a significand that fits a 64-bit word.  The result is
the significand and how many digits were left out because it was full. -/
def fillSignificand (significand : Nat) : List Char → Nat × Nat
  | [] => (significand, 0)
  | digit :: rest =>
    let next := significand * 10 + (digit.toNat - '0'.toNat)
    if next < 0x10000000000000000 then fillSignificand next rest
    else (significand, rest.length + 1)

/-- The exponent of a numeral, kept within 32 bits.  `none` is one beyond. -/
def boundedExponent (digits : List Char) : Option Nat :=
  let value := digitsValue digits
  if value < 0x80000000 then some value else none

/-- Confine an exponent to 32 bits. -/
def clampExponent (exponent : Int) : Int := max (-2147483648) (min 2147483647 exponent)

/-- The float of a numeral with a fraction or an exponent, or with too many
digits: the digits that fit a 64-bit word, scaled by one power of ten. -/
def realOf? (whole fraction : List Char) (exponent : Option (Bool × List Char)) : Option Float :=
  let (significand, left) := fillSignificand 0 whole
  let (significand, fractionLeft) :=
    if left = 0 ∨ fraction ≠ [] then fillSignificand significand fraction else (significand, 0)
  let pointExponent : Int := (left : Int) - (fraction.length - fractionLeft : Nat)
  match exponent with
  | none => Decimal.scaledSignificand significand pointExponent
  | some (negative, digits) =>
    match boundedExponent digits with
    | some value =>
      let value : Int := if negative then -value else value
      Decimal.scaledSignificand significand (clampExponent (pointExponent + value))
    | none => if significand = 0 ∨ negative then some 0.0 else none

/-- The number of a numeral, if it is within range. -/
def numberOf? (negative : Bool) (whole fraction : List Char)
    (exponent : Option (Bool × List Char)) : Option Number :=
  let value := digitsValue whole
  if fraction.isEmpty && exponent.isNone && value < 0x10000000000000000 then
    if negative then
      if 0 < value ∧ value ≤ 0x8000000000000000 then some (.integer (-value))
      else some (.real (-(UInt64.ofNat value).toFloat))
    else
      some (.integer value)
  else
    (realOf? whole fraction exponent).map fun value => .real (if negative then -value else value)

/-- Parse the exponent of a numeral, if there is one; the outer `none` is a
fault. -/
def parseExponent (input : List Char) : Option (Option (Bool × List Char) × List Char) :=
  match input with
  | 'e' :: rest | 'E' :: rest =>
    let (negative, rest) : Bool × List Char :=
      match rest with
      | '+' :: rest => (false, rest)
      | '-' :: rest => (true, rest)
      | rest => (false, rest)
    match rest.takeWhile Char.isDigit with
    | [] => none
    | digits => some (some (negative, digits), rest.dropWhile Char.isDigit)
  | _ => some (none, input)

/-- Parse the fraction of a numeral, if there is one. -/
def parseFraction (input : List Char) : Option (List Char × List Char) :=
  match input with
  | '.' :: rest =>
    match rest.takeWhile Char.isDigit with
    | [] => none
    | digits => some (digits, rest.dropWhile Char.isDigit)
  | _ => some ([], input)

/-- Parse a number that may start with a minus sign. -/
def parseNumber (input : List Char) : Option (Written × List Char) := do
  let (negative, input) : Bool × List Char :=
    match input with
    | '-' :: rest => (true, rest)
    | rest => (false, rest)
  let whole := input.takeWhile Char.isDigit
  let rest := input.dropWhile Char.isDigit
  match whole with
  | [] => none
  | ['0'] => pure ()
  | '0' :: _ => none
  | _ => pure ()
  let (fraction, rest) ← parseFraction rest
  let (exponent, rest) ← parseExponent rest
  pure (.number (numberOf? negative whole fraction exponent), rest)

/-! ## Strings -/

/-- The value of a hexadecimal digit. -/
def hexValue? (character : Char) : Option Nat :=
  if '0' ≤ character ∧ character ≤ '9' then some (character.toNat - '0'.toNat)
  else if 'a' ≤ character ∧ character ≤ 'f' then some (character.toNat - 'a'.toNat + 10)
  else if 'A' ≤ character ∧ character ≤ 'F' then some (character.toNat - 'A'.toNat + 10)
  else none

/-- Four hexadecimal digits. -/
def parseHex4 : List Char → Option (Nat × List Char)
  | a :: b :: c :: d :: rest => do
    let a ← hexValue? a
    let b ← hexValue? b
    let c ← hexValue? c
    let d ← hexValue? d
    pure (((a * 16 + b) * 16 + c) * 16 + d, rest)
  | _ => none

/-- The character of a simple escape. -/
def simpleEscape? : Char → Option Char
  | '"' => some '"'
  | '\\' => some '\\'
  | '/' => some '/'
  | 'b' => some '\x08'
  | 'f' => some '\x0c'
  | 'n' => some '\n'
  | 'r' => some '\r'
  | 't' => some '\t'
  | _ => none

/-- A unit of an escape that is the first half of a surrogate pair. -/
def isLeadingSurrogate (unit : Nat) : Bool := 0xd800 ≤ unit && unit < 0xdc00

/-- A unit of an escape that is the second half of a surrogate pair. -/
def isTrailingSurrogate (unit : Nat) : Bool := 0xdc00 ≤ unit && unit < 0xe000

/-- Parse the rest of a string after its opening quote.  `value` holds the
characters so far in reverse, or `none` after an unpaired surrogate. -/
def parseString : Nat → Option (List Char) → List Char → Option (Option String × List Char)
  | 0, _, _ => none
  | steps + 1, value, input =>
    match input with
    | [] => none
    | '"' :: rest => some (value.map fun characters => String.ofList characters.reverse, rest)
    | '\\' :: 'u' :: rest =>
      match parseHex4 rest with
      | none => none
      | some (unit, rest) =>
        if isLeadingSurrogate unit then
          match rest with
          | '\\' :: 'u' :: after =>
            match parseHex4 after with
            | none => none
            | some (second, after) =>
              if isTrailingSurrogate second then
                let code := 0x10000 + (unit - 0xd800) * 0x400 + (second - 0xdc00)
                parseString steps (value.map fun characters => Char.ofNat code :: characters) after
              else
                parseString steps none rest
          | _ => parseString steps none rest
        else if isTrailingSurrogate unit then
          parseString steps none rest
        else
          parseString steps (value.map fun characters => Char.ofNat unit :: characters) rest
    | '\\' :: escape :: rest =>
      match simpleEscape? escape with
      | none => none
      | some character => parseString steps (value.map fun characters => character :: characters) rest
    | character :: rest =>
      if character.toNat < 0x20 then none
      else parseString steps (value.map fun characters => character :: characters) rest

/-- Parse a string that starts at its opening quote. -/
def parseQuoted (input : List Char) : Option (Option String × List Char) :=
  match input with
  | '"' :: rest => parseString (rest.length + 1) (some []) rest
  | _ => none

/-! ## Values -/

/-- Whether a text follows, and what stands after it. -/
def expect? (word : List Char) (input : List Char) : Option (List Char) :=
  if word.isPrefixOf input then some (input.drop word.length) else none

mutual

/-- Parse a value; the input starts at its first character. -/
def parseValue : Nat → List Char → Option (Written × List Char)
  | 0, _ => none
  | steps + 1, input =>
    match input with
    | 'n' :: _ => (expect? "null".toList input).map fun rest => (.null, rest)
    | 't' :: _ => (expect? "true".toList input).map fun rest => (.boolean true, rest)
    | 'f' :: _ => (expect? "false".toList input).map fun rest => (.boolean false, rest)
    | '"' :: _ => (parseQuoted input).map fun (value, rest) => (.text value, rest)
    | '[' :: rest =>
      match skipBlanks rest with
      | ']' :: rest => some (.list [], rest)
      | rest => parseItems steps [] rest
    | '\x7b' :: rest =>
      match skipBlanks rest with
      | '\x7d' :: rest => some (.object [], rest)
      | rest => parseMembers steps [] rest
    | _ => parseNumber input

/-- Parse the items of a list from an item on; `items` holds those before it
in reverse. -/
def parseItems : Nat → List Written → List Char → Option (Written × List Char)
  | 0, _, _ => none
  | steps + 1, items, input =>
    match parseValue steps input with
    | none => none
    | some (item, rest) =>
      match skipBlanks rest with
      | ']' :: rest => some (.list (item :: items).reverse, rest)
      | ',' :: rest => parseItems steps (item :: items) (skipBlanks rest)
      | _ => none

/-- Parse the members of an object from a member on; `members` holds those
before it in reverse. -/
def parseMembers :
    Nat → List (Option String × Written) → List Char → Option (Written × List Char)
  | 0, _, _ => none
  | steps + 1, members, input =>
    match parseQuoted input with
    | none => none
    | some (name, rest) =>
      match skipBlanks rest with
      | ':' :: rest =>
        match parseValue steps (skipBlanks rest) with
        | none => none
        | some (value, rest) =>
          match skipBlanks rest with
          | '\x7d' :: rest => some (.object ((name, value) :: members).reverse, rest)
          | ',' :: rest => parseMembers steps ((name, value) :: members) (skipBlanks rest)
          | _ => none
      | _ => none

end

/-- Parse a whole text: one value with blanks around it. -/
def parse? (text : String) : Option Written :=
  let input := text.toList
  match parseValue (2 * input.length + 2) (skipBlanks input) with
  | some (value, rest) => if (skipBlanks rest).isEmpty then some value else none
  | none => none

/-! ## Reading as a value -/

/-- The nesting that a text may have. -/
def levelLimit : Nat := 127

mutual

/-- The value of a text with at most so many levels of nesting. -/
def value? (levels : Nat) : Written → Option Json
  | .null => some .null
  | .boolean value => some (.boolean value)
  | .number (some (.integer value)) => some (.integer value)
  | .number (some (.real value)) => some (.real value)
  | .number none => none
  | .text value => value.map .text
  | .list items =>
    match levels with
    | 0 => none
    | levels + 1 => (values? levels items).map .list
  | .object members =>
    match levels with
    | 0 => none
    | levels + 1 => (memberValues? levels members).map sorted

/-- The values of list items. -/
def values? (levels : Nat) : List Written → Option (List Json)
  | [] => some []
  | item :: rest =>
    match value? levels item, values? levels rest with
    | some item, some rest => some (item :: rest)
    | _, _ => none

/-- The values of object members. -/
def memberValues? (levels : Nat) : List (Option String × Written) → Option (List (String × Json))
  | [] => some []
  | (name, value) :: rest =>
    match name, value? levels value, memberValues? levels rest with
    | some name, some value, some rest => some ((name, value) :: rest)
    | _, _, _ => none

end

end Written

/-- The value of a JSON text. -/
def parse? (text : String) : Option Json :=
  (Written.parse? text).bind (Written.value? Written.levelLimit)

end Json
end TenantLoad
