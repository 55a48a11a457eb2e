import TenantLoad.Yaml.Scalar.Gap

/-!
# Plain scalars

A plain scalar has no quotes.  It ends before a colon that a gap follows,
before a comment and, within brackets, before their marks; outside brackets
its further lines must be indented.
-/

namespace TenantLoad
namespace Yaml
namespace Plain

/-- Whether a scalar may begin here. -/
def canBegin (inFlow : Bool) (rest : List Char) : Bool :=
  match rest with
  | [] => false
  | first :: after =>
    if first == '-' then !(after.head?.any isBlank)
    else if first == '?' || first == ':' then !inFlow && !endsWord after
    else !(isGap first || isFlowMark first || "#&*!|>'\"%@`".toList.contains first)

/-- The word that stands here and its length; within brackets a colon must
not stand before one of their marks. -/
def readWord? (inFlow : Bool) : List Char → Option (List Char)
  | [] => some []
  | first :: rest =>
    if isGap first then some []
    else if inFlow && first == ':' && rest.head?.any (fun next => isFlowMark next || next == '?') then
      none
    else if (first == ':' && endsWord rest) || (inFlow && isFlowMark first) then some []
    else (readWord? inFlow rest).map (first :: ·)

/-- A scalar that was read, and whether a line ended after its last word. -/
structure Result where
  text : List Char
  isBroken : Bool
  cursor : Cursor

/-- The words of a scalar that stand here. -/
def readWords? (inFlow : Bool) (least : Nat) : (fuel : Nat) → Cursor → Option Result
  | 0, _ => none
  | fuel + 1, cursor => do
    let word ← readWord? inFlow cursor.rest
    let cursor := cursor.skip word.length
    if word.isEmpty || !(cursor.rest.head?.any isGap) then
      return ⟨word, false, cursor⟩
    let (gap, cursor) ← Gap.read? least cursor
    let isEnd := (!inFlow && cursor.column < least) || cursor.isAtBoundary ||
      cursor.rest.head? == some '#'
    if isEnd then return ⟨word, gap.isBroken, cursor⟩
    let more ← readWords? inFlow least fuel cursor
    if more.text.isEmpty then return ⟨word, gap.isBroken, cursor⟩
    return ⟨word ++ gap.folded ++ more.text, more.isBroken, more.cursor⟩

/-- The scalar that stands here, if its further lines begin at the least
column or after it. -/
def read? (inFlow : Bool) (least : Nat) (cursor : Cursor) : Option Result :=
  readWords? inFlow least (cursor.rest.length + 1) cursor

end Plain
end Yaml
end TenantLoad
