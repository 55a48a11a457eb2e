import TenantLoad.Text.Category
import TenantLoad.Text.CaseFold

/-!
# Sets of characters

The sets that a pattern can name: ranges, classes of characters, and their
combinations.  A set taken regardless of case holds every character with a
case variant in the set.
-/

namespace TenantLoad
namespace Pattern

/-- A set of characters. -/
inductive CharSet where
  | none
  | range (first last : Char)
  | ranges (bounds : List (Nat × Nat))
  | category (categories : List String)
  | word
  | digit
  | space
  | alphabetic
  | union (left right : CharSet)
  | inter (left right : CharSet)
  | complement (set : CharSet)
  | caseless (set : CharSet)
  deriving Repr, DecidableEq

namespace CharSet

/-- Whether a character belongs to a set. -/
def contains : CharSet → Char → Bool
  | .none, _ => false
  | .range first last, character => decide (first ≤ character) && decide (character ≤ last)
  | .ranges bounds, character =>
    bounds.any fun (first, last) =>
      decide (first ≤ character.toNat) && decide (character.toNat ≤ last)
  | .category categories, character => Text.hasCategory character categories
  | .word, character => Text.isWord character
  | .digit, character => Text.isDecimalDigit character
  | .space, character => Text.isSpace character
  | .alphabetic, character => Text.isAlphabetic character
  | .union left right, character => left.contains character || right.contains character
  | .inter left right, character => left.contains character && right.contains character
  | .complement set, character => !set.contains character
  | .caseless set, character => (Text.caseVariants character).any set.contains

/-- The set of one character. -/
def single (character : Char) : CharSet := .range character character

/-- All characters. -/
def any : CharSet := .complement .none

/-- The characters of the left set that are not in the right one. -/
def difference (left right : CharSet) : CharSet := .inter left (.complement right)

/-- The characters of exactly one of the sets. -/
def symmetricDifference (left right : CharSet) : CharSet :=
  .union (difference left right) (difference right left)

/-- The complement, if asked for. -/
def negatedIf (negated : Bool) (set : CharSet) : CharSet :=
  if negated then .complement set else set

/-- The set regardless of case, if asked for. -/
def caselessIf (caseless : Bool) (set : CharSet) : CharSet :=
  if caseless then .caseless set else set

/-- The members of a list of ASCII ranges. -/
def ofRanges (bounds : List (Char × Char)) : CharSet :=
  .ranges (bounds.map fun (first, last) => (first.toNat, last.toNat))

/-- Whether a set can hold only ASCII characters, read off its shape. -/
def isAscii : CharSet → Bool
  | .none => true
  | .range _ last => decide (last.toNat < 0x80)
  | .ranges bounds => bounds.all fun (_, last) => decide (last < 0x80)
  | .union left right => left.isAscii && right.isAscii
  | .inter left right => left.isAscii || right.isAscii
  | _ => false

end CharSet
end Pattern
end TenantLoad
