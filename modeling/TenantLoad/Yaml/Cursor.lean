/-!
# Places in a document

A document is a list of characters in which every line break is one
character.  A cursor knows what is left of it and the line and column of the
next character, which the layout of blocks depends on.
-/

namespace TenantLoad
namespace Yaml

/-- Whether a character may occur in a document. -/
def isAllowed (character : Char) : Bool :=
  let code := character.toNat
  ['\t', '\n', '\r'].contains character || (0x20 ≤ code && code ≤ 0x7E) || code == 0x85 ||
    (0xA0 ≤ code && code ≤ 0xFFFD) || 0x10000 ≤ code

/-- Write every line break as one character. -/
def joinBreaks : List Char → List Char
  | [] => []
  | '\r' :: '\n' :: rest => '\n' :: joinBreaks rest
  | '\r' :: rest => '\n' :: joinBreaks rest
  | '\u0085' :: rest => '\n' :: joinBreaks rest
  | character :: rest => character :: joinBreaks rest

/-- Whether a character ends a line. -/
def isBreak (character : Char) : Bool := ['\n', '\u2028', '\u2029'].contains character

/-- Whether a character is a blank within a line. -/
def isBlank (character : Char) : Bool := character == ' ' || character == '\t'

/-- Whether a character separates words. -/
def isGap (character : Char) : Bool := isBlank character || isBreak character

/-- Whether a character may occur in the name of an anchor or a directive. -/
def isNameChar (character : Char) : Bool :=
  character.isAlphanum || character == '_' || character == '-'

/-- Whether a character delimits the collections that are written in
brackets. -/
def isFlowMark (character : Char) : Bool := [',', '[', ']', '\x7b', '\x7d'].contains character

/-- Whether a word ends here: at a gap or at the end of the document. -/
def endsWord (rest : List Char) : Bool := (rest.head?.map isGap).getD true

/-- A place in a document. -/
structure Cursor where
  rest : List Char
  column : Nat := 0
  line : Nat := 0

namespace Cursor

/-- Go past characters of the same line. -/
def skip (cursor : Cursor) (count : Nat) : Cursor :=
  { cursor with rest := cursor.rest.drop count, column := cursor.column + count }

/-- The characters of a class that stand here, and the place after them. -/
def take (cursor : Cursor) (isIn : Char → Bool) : List Char × Cursor :=
  let taken := cursor.rest.takeWhile isIn
  (taken, cursor.skip taken.length)

/-- Go past the blanks that stand here. -/
def skipBlanks (cursor : Cursor) : Cursor := (cursor.take isBlank).2

/-- Go to the end of the line if a comment stands here. -/
def skipComment (cursor : Cursor) : Cursor :=
  if cursor.rest.head? = some '#' then (cursor.take fun character => !isBreak character).2
  else cursor

/-- Go past the line break that stands here. -/
def nextLine (cursor : Cursor) : Cursor :=
  { rest := cursor.rest.drop 1, column := 0, line := cursor.line + 1 }

/-- Go past the rest of a line that holds nothing but a comment. -/
def finishLine? (cursor : Cursor) : Option Cursor :=
  let cursor := cursor.skipBlanks.skipComment
  match cursor.rest with
  | [] => some cursor
  | first :: _ => if isBreak first then some cursor.nextLine else none

/-- Whether a line begins here with three marks and nothing joined to them. -/
def isAtMarks (cursor : Cursor) (mark : Char) : Bool :=
  cursor.column == 0 && cursor.rest.take 3 == [mark, mark, mark] && endsWord (cursor.rest.drop 3)

/-- Whether a document begins or ends here by a mark. -/
def isAtBoundary (cursor : Cursor) : Bool := cursor.isAtMarks '-' || cursor.isAtMarks '.'

end Cursor
end Yaml
end TenantLoad
