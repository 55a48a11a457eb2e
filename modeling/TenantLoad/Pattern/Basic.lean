import TenantLoad.Pattern.CharSet

/-!
# Patterns over text

A pattern describes stretches of a text.  Besides the usual combinations it
has assertions, which hold at a position by virtue of the characters on its
two sides.  `Pattern.Matches` is the meaning; `TenantLoad.Pattern.Search`
decides whether a text holds a match anywhere.
-/

namespace TenantLoad

namespace Pattern

/-- A condition on a position, in terms of the characters before and after it. -/
inductive Assertion where
  | textStart
  | textEnd
  | lineStart
  | lineEnd
  | anyLineStart
  | anyLineEnd
  | wordEdge (ascii : Bool)
  | notWordEdge (ascii : Bool)
  | wordStart (ascii : Bool)
  | wordEnd (ascii : Bool)
  | wordStartHalf (ascii : Bool)
  | wordEndHalf (ascii : Bool)
  deriving Repr, DecidableEq

/-- Characters that make up words, possibly of ASCII alone. -/
def isWordChar (ascii : Bool) (character : Char) : Bool :=
  if ascii then character.isAlphanum || character = '_' else Text.isWord character

/-- Whether a character is present and makes up words. -/
def isWordAt (ascii : Bool) (character : Option Char) : Bool :=
  match character with
  | some character => isWordChar ascii character
  | none => false

namespace Assertion

/-- Whether an assertion holds between two characters; `none` is an end of
the text. -/
def holds (before after : Option Char) : Assertion → Bool
  | .textStart => before.isNone
  | .textEnd => after.isNone
  | .lineStart => before.isNone || before == some '\n'
  | .lineEnd => after.isNone || after == some '\n'
  | .anyLineStart =>
    before.isNone || before == some '\n' || (before == some '\r' && after != some '\n')
  | .anyLineEnd =>
    after.isNone || after == some '\r' || (after == some '\n' && before != some '\r')
  | .wordEdge ascii => isWordAt ascii before != isWordAt ascii after
  | .notWordEdge ascii => isWordAt ascii before == isWordAt ascii after
  | .wordStart ascii => !isWordAt ascii before && isWordAt ascii after
  | .wordEnd ascii => isWordAt ascii before && !isWordAt ascii after
  | .wordStartHalf ascii => !isWordAt ascii before
  | .wordEndHalf ascii => !isWordAt ascii after

end Assertion
end Pattern

/-- A pattern. -/
inductive Pattern where
  /-- The empty stretch. -/
  | empty
  /-- One character of a set. -/
  | oneOf (set : Pattern.CharSet)
  /-- One character with the simple case fold of the given one. -/
  | folded (character : Char)
  /-- The empty stretch at a position that satisfies an assertion. -/
  | assertion (condition : Pattern.Assertion)
  /-- One pattern after another. -/
  | sequence (first second : Pattern)
  /-- One pattern or another. -/
  | either (first second : Pattern)
  /-- So many repetitions, without an upper bound if there is none. -/
  | repetition (body : Pattern) (least : Nat) (most : Option Nat)
  deriving Repr, DecidableEq

namespace Pattern

/-- A pattern matches a stretch between what stands before and after it. -/
inductive Matches : Pattern → List Char → List Char → List Char → Prop where
  | empty {before after : List Char} : Matches .empty before [] after
  | oneOf {set : CharSet} {before after : List Char} {found : Char}
      (member : set.contains found = true) :
      Matches (.oneOf set) before [found] after
  | folded {expected found : Char} {before after : List Char}
      (same : Text.fold found = Text.fold expected) :
      Matches (.folded expected) before [found] after
  | assertion {condition : Assertion} {before after : List Char}
      (holds : condition.holds before.getLast? after.head? = true) :
      Matches (.assertion condition) before [] after
  | sequence {first second : Pattern} {before left right after : List Char}
      (matchesFirst : Matches first before left (right ++ after))
      (matchesSecond : Matches second (before ++ left) right after) :
      Matches (.sequence first second) before (left ++ right) after
  | left {first second : Pattern} {before stretch after : List Char}
      (matchesFirst : Matches first before stretch after) :
      Matches (.either first second) before stretch after
  | right {first second : Pattern} {before stretch after : List Char}
      (matchesSecond : Matches second before stretch after) :
      Matches (.either first second) before stretch after
  | stop {body : Pattern} {most : Option Nat} {before after : List Char} :
      Matches (.repetition body 0 most) before [] after
  | more {body : Pattern} {least : Nat} {before left right after : List Char}
      (matchesBody : Matches body before left (right ++ after))
      (matchesRest : Matches (.repetition body (least - 1) none) (before ++ left) right after) :
      Matches (.repetition body least none) before (left ++ right) after
  | moreBounded {body : Pattern} {least most : Nat} {before left right after : List Char}
      (matchesBody : Matches body before left (right ++ after))
      (matchesRest :
        Matches (.repetition body (least - 1) (some most)) (before ++ left) right after) :
      Matches (.repetition body least (some (most + 1))) before (left ++ right) after

/-- A text holds a match when some stretch of it matches. -/
def Occurs (pattern : Pattern) (text : List Char) : Prop :=
  ∃ before stretch after,
    text = before ++ stretch ++ after ∧ Matches pattern before stretch after

/-- The patterns of a list, one after another. -/
def ofSequence : List Pattern → Pattern
  | [] => .empty
  | [pattern] => pattern
  | pattern :: rest => .sequence pattern (ofSequence rest)

/-- One of the patterns of a list that is not empty. -/
def ofAlternatives (first : Pattern) : List Pattern → Pattern
  | [] => first
  | second :: rest => .either first (ofAlternatives second rest)

end Pattern
end TenantLoad
