import TenantLoad.Yaml.Cursor

/-!
# Gaps between words

The words of a scalar are joined again by what stands between them: blanks
within a line are kept, a line break becomes a space, and of several line
breaks all but the first are kept.
-/

namespace TenantLoad
namespace Yaml

/-- What stands between two words. -/
structure Gap where
  /-- The blanks before the first line break. -/
  blanks : List Char := []
  /-- The line breaks. -/
  breaks : List Char := []
  deriving Repr, DecidableEq

namespace Gap

/-- Whether the words stand on different lines. -/
def isBroken (gap : Gap) : Bool := !gap.breaks.isEmpty

/-- What joins the words. -/
def folded (gap : Gap) : List Char :=
  match gap.breaks with
  | [] => gap.blanks
  | ['\n'] => [' ']
  | '\n' :: more => more
  | breaks => breaks

/-- The line breaks that stand here with the blanks between them; a tab below
the least column is a fault. -/
def readBreaks? (least : Nat) : (rest : List Char) → (column line : Nat) →
    Option (List Char × Cursor)
  | [], column, line => some ([], ⟨[], column, line⟩)
  | first :: rest, column, line =>
    if isBlank first then
      if first = '\t' ∧ column < least then none else readBreaks? least rest (column + 1) line
    else if isBreak first then
      (readBreaks? least rest 0 (line + 1)).map fun (breaks, cursor) => (first :: breaks, cursor)
    else
      some ([], ⟨first :: rest, column, line⟩)

/-- The gap that stands here. -/
def read? (least : Nat) (cursor : Cursor) : Option (Gap × Cursor) :=
  let (blanks, cursor) := cursor.take isBlank
  if cursor.rest.head?.any isBreak then
    (readBreaks? least cursor.rest cursor.column cursor.line).map fun (breaks, cursor) =>
      (⟨blanks, breaks⟩, cursor)
  else
    some (⟨blanks, []⟩, cursor)

end Gap
end Yaml
end TenantLoad
