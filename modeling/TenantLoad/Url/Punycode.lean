/-!
# Punycode

The ASCII form of a domain label with other characters.  The ASCII characters
come first; the others follow in ascending order of their codes, each as a
distance from its predecessor in a variable-length notation of base 36 whose
digit thresholds adapt to earlier distances.
-/

namespace TenantLoad
namespace Url
namespace Punycode

/-- The character of a digit. -/
def digitChar (digit : Nat) : Char :=
  Char.ofNat (if digit < 26 then 'a'.toNat + digit else '0'.toNat + (digit - 26))

/-- The digit of a character. -/
def digitValue? (character : Char) : Option Nat :=
  if 'a' ≤ character ∧ character ≤ 'z' then some (character.toNat - 'a'.toNat)
  else if 'A' ≤ character ∧ character ≤ 'Z' then some (character.toNat - 'A'.toNat)
  else if character.isDigit then some (character.toNat - '0'.toNat + 26)
  else none

/-- The threshold of the digit at a place. -/
def threshold (place bias : Nat) : Nat :=
  if place ≤ bias then 1 else if bias + 26 ≤ place then 26 else place - bias

/-- Divide a distance by 35 until it is small, counting 36 for each time. -/
def reduceDistance (distance count : Nat) : Nat × Nat :=
  if 455 < distance then reduceDistance (distance / 35) (count + 36) else (distance, count)
termination_by distance

/-- The bias after a distance. -/
def adapt (distance points : Nat) (isFirst : Bool) : Nat :=
  let distance := if isFirst then distance / 700 else distance / 2
  let (distance, count) := reduceDistance (distance + distance / points) 0
  count + 36 * distance / (distance + 38)

/-- The digits of a distance from a place on; each digit takes at least one
half off the distance, so its binary length bounds their number. -/
def distanceDigits (bias : Nat) : Nat → Nat → Nat → List Char
  | 0, _, _ => []
  | steps + 1, place, distance =>
    let limit := threshold place bias
    if distance < limit then [digitChar distance]
    else
      digitChar (limit + (distance - limit) % (36 - limit)) ::
        distanceDigits bias steps (place + 36) ((distance - limit) / (36 - limit))

/-- How far the encoding of a label has come. -/
structure Progress where
  written : List Char
  distance : Nat
  bias : Nat
  handled : Nat

/-- Pass one character of the label while characters of a code are written. -/
def passChar (plain code : Nat) (progress : Progress) (character : Char) : Progress :=
  if character.toNat < code then { progress with distance := progress.distance + 1 }
  else if character.toNat = code then
    { written :=
        progress.written ++
          distanceDigits progress.bias (progress.distance.log2 + 2) 36 progress.distance
      distance := 0
      bias := adapt progress.distance (progress.handled + 1) (progress.handled == plain)
      handled := progress.handled + 1 }
  else progress

/-- Write the characters of ascending codes. -/
def encodeCodes (label : List Char) (plain : Nat) : List Nat → Nat → Progress → Progress
  | [], _, progress => progress
  | code :: codes, next, progress =>
    let progress :=
      { progress with distance := progress.distance + (code - next) * (progress.handled + 1) }
    let progress := label.foldl (passChar plain code) progress
    encodeCodes label plain codes (code + 1) { progress with distance := progress.distance + 1 }

/-- The ASCII form of a label. -/
def encode (label : List Char) : List Char :=
  let plain := label.filter fun character => character.toNat < 0x80
  let codes := ((label.map Char.toNat).filter fun code => 0x80 ≤ code).mergeSort.eraseDups
  let start := if plain.isEmpty then plain else plain ++ ['-']
  (encodeCodes label plain.length codes 0x80 ⟨start, 0, 72, plain.length⟩).written

/-- Read a distance: the position that it leads to and the rest. -/
def readDistance? (bias : Nat) : List Char → (place weight position : Nat) →
    Option (Nat × List Char)
  | [], _, _, _ => none
  | character :: rest, place, weight, position =>
    match digitValue? character with
    | none => none
    | some digit =>
      let position := position + digit * weight
      let limit := threshold place bias
      if digit < limit then some (position, rest)
      else readDistance? bias rest (place + 36) (weight * (36 - limit)) position

/-- Read the characters that are not ASCII into a label, by at most so many
distances. -/
def decodeCodes? : Nat → List Char → (code position bias : Nat) → List Char →
    Option (List Char)
  | 0, _, _, _, _, _ => none
  | _, [], _, _, _, label => some label
  | steps + 1, input, code, position, bias, label =>
    match readDistance? bias input 36 1 position with
    | none => none
    | some (reached, rest) =>
      let size := label.length + 1
      let code := code + reached / size
      let place := reached % size
      if code < 0x110000 ∧ ¬(0xd800 ≤ code ∧ code < 0xe000) then
        decodeCodes? steps rest code (place + 1) (adapt (reached - position) size (position == 0))
          (label.take place ++ Char.ofNat code :: label.drop place)
      else none

/-- The label of an ASCII form. -/
def decode? (text : List Char) : Option (List Char) :=
  let (last, plain) := text.reverse.span fun character => character != '-'
  let plain := (plain.drop 1).reverse
  let codes := if plain.isEmpty && text.head? != some '-' then text else last.reverse
  decodeCodes? (codes.length + 1) codes 0x80 0 72 plain

end Punycode
end Url
end TenantLoad
