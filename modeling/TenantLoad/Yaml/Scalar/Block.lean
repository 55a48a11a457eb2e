import TenantLoad.Yaml.Cursor

/-!
# Block scalars

A block scalar is a run of indented lines below its header.  A literal one
keeps its line breaks, a folded one joins lines that begin without blanks.
The header says what becomes of the line breaks at the end and may give the
indentation, which is otherwise that of the first line with text.
-/

namespace TenantLoad
namespace Yaml
namespace Block

/-- What becomes of the line breaks at the end. -/
inductive Chomping where
  /-- The first one is kept. -/
  | clip
  /-- None is kept. -/
  | strip
  /-- All are kept. -/
  | keep
  deriving Repr, DecidableEq

/-- The header of a block scalar. -/
structure Header where
  chomping : Chomping := .clip
  /-- The columns that the lines are indented by. -/
  increment : Option Nat := none

/-- The chomping that a mark asks for. -/
def chomping? (mark : Char) : Option Chomping :=
  if mark = '+' then some .keep else if mark = '-' then some .strip else none

/-- The header that stands here after its first mark: a mark for the chomping
and a digit from one to nine, in either order. -/
def readHeader? (cursor : Cursor) : Option (Header × Cursor) := do
  let (marks, cursor) := (cursor.rest.take 2, cursor)
  let readDigit? (digit : Char) : Option Nat :=
    if digit.isDigit then some (digit.toNat - '0'.toNat) else none
  let first := marks[0]?
  let second := marks[1]?
  let (header, length) : Header × Nat :=
    match first.bind chomping?, first.bind readDigit? with
    | some chomping, _ =>
      match second.bind readDigit? with
      | some digit => (⟨chomping, some digit⟩, 2)
      | none => (⟨chomping, none⟩, 1)
    | none, some digit =>
      match second.bind chomping? with
      | some chomping => (⟨chomping, some digit⟩, 2)
      | none => (⟨.clip, some digit⟩, 1)
    | none, none => ({}, 0)
  if header.increment = some 0 then none
  let cursor ← (cursor.skip length).finishLine?
  return (header, cursor)

/-- The empty lines that stand here. -/
structure EmptyLines where
  /-- Their line breaks. -/
  breaks : List Char
  /-- The greatest column that their blanks reach. -/
  reach : Nat
  cursor : Cursor

/-- The empty lines that stand here and the blanks of the line after them, up
to the indentation if it is known; a tab among those blanks is a fault. -/
def readEmptyLines? (indent : Option Nat) : (rest : List Char) → (column line reach : Nat) →
    Option EmptyLines
  | [], column, line, reach => some ⟨[], max reach column, ⟨[], column, line⟩⟩
  | first :: rest, column, line, reach =>
    let isInside := (indent.map fun indent => decide (column < indent)).getD true
    if isInside ∧ first = ' ' then readEmptyLines? indent rest (column + 1) line reach
    else if isInside ∧ first = '\t' then none
    else if isBreak first then
      (readEmptyLines? indent rest 0 (line + 1) (max reach column)).map fun lines =>
        { lines with breaks := first :: lines.breaks }
    else
      some ⟨[], max reach column, ⟨first :: rest, column, line⟩⟩

/-- The text so far of a block scalar. -/
structure Progress where
  text : List Char := []
  /-- The line break that ended the last line. -/
  lastBreak : List Char := []
  /-- The line breaks of the empty lines after it. -/
  emptyBreaks : List Char := []
  /-- Whether the last line began with a blank. -/
  wasBlank : Bool := false

/-- What stands between the last line and the next. -/
def Progress.between (progress : Progress) (isFolded isBlankLine : Bool) : List Char :=
  if isFolded ∧ progress.lastBreak = ['\n'] ∧ ¬progress.wasBlank ∧ ¬isBlankLine then
    if progress.emptyBreaks.isEmpty then [' '] else progress.emptyBreaks
  else
    progress.lastBreak ++ progress.emptyBreaks

/-- The text with the line breaks at its end. -/
def Progress.finish (progress : Progress) (chomping : Chomping) : List Char :=
  match chomping with
  | .strip => progress.text
  | .clip => progress.text ++ progress.lastBreak
  | .keep => progress.text ++ progress.lastBreak ++ progress.emptyBreaks

/-- The lines that stand here at the indentation. -/
def readLines? (isFolded : Bool) (indent : Nat) : (fuel : Nat) → Progress → Cursor →
    Option (Progress × Cursor)
  | 0, _, _ => none
  | fuel + 1, progress, cursor =>
    if cursor.column = indent ∧ ¬cursor.rest.isEmpty then do
      let isBlankLine := cursor.rest.head?.any isBlank
      let (line, cursor) := cursor.take fun character => !isBreak character
      let lastBreak := cursor.rest.take 1
      let cursor := if lastBreak.isEmpty then cursor else cursor.nextLine
      let lines ← readEmptyLines? (some indent) cursor.rest cursor.column cursor.line 0
      let progress : Progress :=
        { text := progress.text ++ progress.between isFolded isBlankLine ++ line
          lastBreak, emptyBreaks := lines.breaks, wasBlank := isBlankLine }
      readLines? isFolded indent fuel progress lines.cursor
    else
      some (progress, cursor)

/-- The scalar whose first mark stands here; its lines are indented against
the collection that it stands in, which begins at a column if there is one. -/
def read? (isFolded : Bool) (parent : Option Nat) (cursor : Cursor) :
    Option (List Char × Cursor) := do
  let (header, cursor) ← readHeader? (cursor.skip 1)
  let given := header.increment.map (parent.getD 0 + ·)
  let lines ← readEmptyLines? given cursor.rest cursor.column cursor.line 0
  let least := (parent.map (· + 1)).getD 0
  let indent := given.getD (max lines.reach (max least 1))
  let start : Progress := { emptyBreaks := lines.breaks }
  let (progress, cursor) ←
    readLines? isFolded indent (cursor.rest.length + 1) start lines.cursor
  return (progress.finish header.chomping, cursor)

end Block
end Yaml
end TenantLoad
