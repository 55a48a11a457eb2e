import TenantLoad.Pattern.Basic

/-!
# Searching a text for a pattern

A set of positions of a text is a natural number whose bit `i` stands for the
position before the `i`-th character.  A pattern takes the positions where a
stretch may start to the positions where it may end: one character is a mask
and a shift, an assertion a mask, a sequence a composition, a choice a union
and a repetition an iteration that stops when it adds nothing.
-/

namespace TenantLoad
namespace Pattern

/-- A pattern whose conditions on characters are the sets of positions of one
text that satisfy them. -/
inductive Plan where
  | stay (positions : Nat)
  | advance (positions : Nat)
  | sequence (first second : Plan)
  | either (first second : Plan)
  | repetition (body : Plan) (least : Nat) (most : Option Nat)

/-- The positions whose next character satisfies a condition, from the given
index on. -/
def charPositions (condition : Char → Bool) : Nat → List Char → Nat
  | _, [] => 0
  | index, character :: rest =>
    (if condition character then 1 <<< index else 0) ||| charPositions condition (index + 1) rest

/-- The positions whose neighbours satisfy a condition, from the given index
on. -/
def gapPositions (condition : Option Char → Option Char → Bool) :
    Nat → Option Char → List Char → Nat
  | index, before, [] => if condition before none then 1 <<< index else 0
  | index, before, character :: rest =>
    (if condition before (some character) then 1 <<< index else 0) |||
      gapPositions condition (index + 1) (some character) rest

/-- All positions of a text. -/
def allPositions (text : List Char) : Nat := 1 <<< (text.length + 1) - 1

/-- The plan of a pattern for a text. -/
def plan (text : List Char) : Pattern → Plan
  | .empty => .stay (allPositions text)
  | .oneOf set => .advance (charPositions set.contains 0 text)
  | .folded expected =>
    .advance (charPositions (fun found => Text.fold found == Text.fold expected) 0 text)
  | .assertion condition =>
    .stay (gapPositions (fun before after => condition.holds before after) 0 none text)
  | .sequence first second => .sequence (plan text first) (plan text second)
  | .either first second => .either (plan text first) (plan text second)
  | .repetition body least most => .repetition (plan text body) least most

/-- Apply a step so many times, as long as positions are left. -/
def iterate (step : Nat → Nat) : Nat → Nat → Nat
  | 0, positions => positions
  | count + 1, positions =>
    if positions = 0 then 0 else iterate step count (step positions)

/-- Add the positions reached by up to so many steps, until none is new. -/
def accumulate (step : Nat → Nat) : Nat → Nat → Nat
  | 0, positions => positions
  | count + 1, positions =>
    let grown := positions ||| step positions
    if grown = positions then positions else accumulate step count grown

namespace Plan

/-- The positions where a stretch may end that starts at one of the given
positions of a text of so many positions. -/
def run (size : Nat) : Plan → Nat → Nat
  | .stay allowed, positions => positions &&& allowed
  | .advance allowed, positions => (positions &&& allowed) <<< 1
  | .sequence first second, positions => second.run size (first.run size positions)
  | .either first second, positions => first.run size positions ||| second.run size positions
  | .repetition body least none, positions =>
    accumulate (body.run size) size (iterate (body.run size) least positions)
  | .repetition body least (some most), positions =>
    accumulate (body.run size) (most - least) (iterate (body.run size) least positions)

end Plan

/-- Whether a text holds a match of a pattern. -/
def isMatch (pattern : Pattern) (text : List Char) : Bool :=
  (plan text pattern).run (text.length + 1) (allPositions text) != 0

end Pattern
end TenantLoad
