import TenantLoad.Yaml.Scalar.Block
import TenantLoad.Yaml.Scalar.Plain
import TenantLoad.Yaml.Tag

/-!
# Tokens and layout

Reading a document as tokens, the layout turns into brackets: a collection in
block form opens where a line is indented further and closes where one is
indented less.  What is a key shows only at the colon behind it, so the mark
of a key is put into the tokens at a place that was kept for it.
-/

namespace TenantLoad
namespace Yaml

/-- How a scalar is written. -/
inductive Style where
  | plain
  | quoted
  | literal
  | folded
  deriving Repr, DecidableEq

/-- The smallest parts of a document. -/
inductive Token where
  | directive (directive : Directive)
  | documentStart
  | documentEnd
  | blockSequence
  | blockMapping
  | blockEnd
  | flowSequence
  | flowSequenceEnd
  | flowMapping
  | flowMappingEnd
  /-- The mark of an item in block form. -/
  | item
  | comma
  | key
  | value
  | alias (name : String)
  | anchor (name : String)
  | tag (tag : Tag)
  | scalar (style : Style) (text : String)
  deriving Repr, DecidableEq

/-- A place where a key may turn out to have begun. -/
structure KeyPlace where
  /-- The number of tokens before it. -/
  position : Nat
  column : Nat
  line : Nat
  /-- Whether nothing but a key may stand there. -/
  isRequired : Bool
  deriving Repr, DecidableEq

/-- The length beyond which no key is looked for. -/
def KeyPlace.limit : Nat := 1024

/-- Whether a key can no longer reach from a place to a cursor. -/
def KeyPlace.isPast (place : KeyPlace) (cursor : Cursor) : Bool :=
  place.line < cursor.line || place.column + limit < cursor.column

/-- What has been read of a document. -/
structure Layout where
  cursor : Cursor
  tokens : Array Token := #[]
  /-- The place where a key of this level may have begun. -/
  keyPlace : Option KeyPlace := none
  /-- Such places of the levels outside the innermost brackets. -/
  outerPlaces : List (Option KeyPlace) := []
  /-- The columns of the open collections in block form, innermost first. -/
  columns : List Nat := []
  /-- Whether a key may begin at the next token. -/
  canBeginKey : Bool := true

namespace Layout

/-- Whether the next token stands within brackets. -/
def inFlow (layout : Layout) : Bool := !layout.outerPlaces.isEmpty

/-- The column after which the innermost collection in block form is
continued. -/
def least (layout : Layout) : Nat := (layout.columns.head?.map (· + 1)).getD 0

/-- The layout with one more token, at another place. -/
def emitTo (layout : Layout) (token : Token) (cursor : Cursor) : Layout :=
  { layout with tokens := layout.tokens.push token, cursor }

/-- Set whether a key may begin at the next token. -/
def allowKey (layout : Layout) (isAllowed : Bool) : Layout :=
  { layout with canBeginKey := isAllowed }

/-- Give up the place where a key may have begun; a fault if only a key may
stand there. -/
def dropPlace? (layout : Layout) : Option Layout :=
  if layout.keyPlace.any KeyPlace.isRequired then none else some { layout with keyPlace := none }

/-- Keep the next token as the place of a key, if one may begin there. -/
def keepPlace? (layout : Layout) : Option Layout :=
  if layout.canBeginKey then
    layout.dropPlace?.map fun layout =>
      { layout with
        keyPlace := some
          { position := layout.tokens.size
            column := layout.cursor.column
            line := layout.cursor.line
            isRequired := !layout.inFlow && layout.columns.head? == some layout.cursor.column } }
  else
    some layout

/-- Give up the places that no key can reach from any more. -/
def expirePlaces? (layout : Layout) : Option Layout := do
  let expire (place : Option KeyPlace) : Option (Option KeyPlace) :=
    match place with
    | none => some none
    | some place =>
      if place.isPast layout.cursor then if place.isRequired then none else some none
      else some (some place)
  return { layout with
    keyPlace := ← expire layout.keyPlace
    outerPlaces := ← layout.outerPlaces.mapM expire }

/-- Open a collection in block form at a column that lies further in, with its
token at a place among the tokens. -/
def openBlock (layout : Layout) (column position : Nat) (token : Token) : Layout :=
  if layout.inFlow || column < layout.least then layout
  else
    { layout with
      columns := column :: layout.columns
      tokens := layout.tokens.insertIdxIfInBounds position token }

/-- Close the collections in block form that lie further in than a column, or
all of them. -/
def closeBlocks (layout : Layout) (column : Option Nat) : Layout :=
  if layout.inFlow then layout
  else
    let isInner (inner : Nat) : Bool := column.all fun column => column < inner
    let closed := layout.columns.takeWhile isInner
    { layout with
      columns := layout.columns.dropWhile isInner
      tokens := layout.tokens ++ Array.replicate closed.length .blockEnd }

/-- Go to the next token: past blanks, comments and line breaks.  A tab may
not stand where the indentation of a key is. -/
def skipGaps : (fuel : Nat) → Layout → Layout
  | 0, layout => layout
  | fuel + 1, layout =>
    let areTabsBlank := layout.inFlow || !layout.canBeginKey
    let cursor :=
      (layout.cursor.take fun character =>
        character == ' ' || (areTabsBlank && character == '\t')).2.skipComment
    if cursor.rest.head?.any isBreak then
      skipGaps fuel
        { layout with
          cursor := cursor.nextLine, canBeginKey := layout.canBeginKey || !layout.inFlow }
    else
      { layout with cursor }

/-- A directive. -/
def directive? (layout : Layout) : Option Layout := do
  let layout ← (layout.closeBlocks none).dropPlace?
  let (directive, cursor) ← Directive.read? layout.cursor
  return (layout.emitTo (.directive directive) cursor).allowKey false

/-- The mark of the start or the end of a document. -/
def boundary? (layout : Layout) (token : Token) : Option Layout := do
  let layout ← (layout.closeBlocks none).dropPlace?
  return (layout.emitTo token (layout.cursor.skip 3)).allowKey false

/-- An opening bracket. -/
def openFlow? (layout : Layout) (token : Token) : Option Layout := do
  let layout ← layout.keepPlace?
  let layout := (layout.emitTo token (layout.cursor.skip 1)).allowKey true
  return { layout with keyPlace := none, outerPlaces := layout.keyPlace :: layout.outerPlaces }

/-- A closing bracket. -/
def closeFlow? (layout : Layout) (token : Token) : Option Layout := do
  let layout ← layout.dropPlace?
  let layout := (layout.emitTo token (layout.cursor.skip 1)).allowKey false
  match layout.outerPlaces with
  | [] => return layout
  | place :: outer => return { layout with keyPlace := place, outerPlaces := outer }

/-- A comma within brackets. -/
def comma? (layout : Layout) : Option Layout := do
  let layout ← layout.dropPlace?
  return (layout.emitTo .comma (layout.cursor.skip 1)).allowKey true

/-- A mark that begins an item or a key of a collection in block form, which
must stand where a key may begin. -/
def begin? (layout : Layout) (collection token : Token) : Option Layout := do
  if !layout.inFlow && !layout.canBeginKey then none
  let layout := layout.openBlock layout.cursor.column layout.tokens.size collection
  let layout ← layout.dropPlace?
  return layout.emitTo token (layout.cursor.skip 1)

/-- The mark of an item. -/
def item? (layout : Layout) : Option Layout :=
  (layout.begin? .blockSequence .item).map (allowKey · true)

/-- The mark of a key. -/
def key? (layout : Layout) : Option Layout :=
  (layout.begin? .blockMapping .key).map fun layout => layout.allowKey !layout.inFlow

/-- The mark of a value, which also marks its key. -/
def value? (layout : Layout) : Option Layout := do
  let cursor := layout.cursor.skip 1
  match layout.keyPlace with
  | some place =>
    let layout :=
      { layout with
        keyPlace := none, tokens := layout.tokens.insertIdxIfInBounds place.position .key }
    let layout := layout.openBlock place.column place.position .blockMapping
    return (layout.emitTo .value cursor).allowKey false
  | none =>
    if !layout.inFlow && !layout.canBeginKey then none
    let layout := layout.openBlock layout.cursor.column layout.tokens.size .blockMapping
    return (layout.emitTo .value cursor).allowKey !layout.inFlow

/-- The name of an anchor after its mark; only some characters may follow
it. -/
def readName? (cursor : Cursor) : Option (String × Cursor) :=
  let (name, cursor) := (cursor.skip 1).take isNameChar
  let isEnd := endsWord cursor.rest ||
    cursor.rest.head?.any fun next => "?:,]\x7d%@".toList.contains next || next.toNat == 0x60
  if name.isEmpty || !isEnd then none else some (String.ofList name, cursor)

/-- An anchor or an alias. -/
def name? (layout : Layout) (token : String → Token) : Option Layout := do
  let layout ← layout.keepPlace?
  let (name, cursor) ← readName? layout.cursor
  return (layout.emitTo (token name) cursor).allowKey false

/-- A tag. -/
def tag? (layout : Layout) : Option Layout := do
  let layout ← layout.keepPlace?
  let (tag, cursor) ← Tag.read? layout.inFlow layout.cursor
  return (layout.emitTo (.tag tag) cursor).allowKey false

/-- A block scalar. -/
def blockScalar? (layout : Layout) (style : Style) : Option Layout := do
  let layout ← layout.dropPlace?
  let (text, cursor) ← Block.read? (style = .folded) layout.columns.head? layout.cursor
  return (layout.emitTo (.scalar style (String.ofList text)) cursor).allowKey true

/-- A quoted scalar. -/
def quotedScalar? (layout : Layout) (quote : Quoted.Quote) : Option Layout := do
  let layout ← layout.keepPlace?
  let (text, cursor) ← Quoted.read? quote layout.cursor
  return (layout.emitTo (.scalar .quoted (String.ofList text)) cursor).allowKey false

/-- A plain scalar; a key may begin on the line after it. -/
def plainScalar? (layout : Layout) : Option Layout := do
  let layout ← layout.keepPlace?
  let result ← Plain.read? layout.inFlow layout.least layout.cursor
  return (layout.emitTo (.scalar .plain (String.ofList result.text)) result.cursor).allowKey
    result.isBroken

/-- The token that begins with a character. -/
def token? (layout : Layout) (first : Char) (rest : List Char) : Option Layout :=
  let isMark := layout.inFlow || endsWord rest
  if layout.cursor.column = 0 ∧ first = '%' then layout.directive?
  else if layout.cursor.isAtMarks '-' then layout.boundary? .documentStart
  else if layout.cursor.isAtMarks '.' then layout.boundary? .documentEnd
  else if first = '[' then layout.openFlow? .flowSequence
  else if first = '\x7b' then layout.openFlow? .flowMapping
  else if first = ']' then layout.closeFlow? .flowSequenceEnd
  else if first = '\x7d' then layout.closeFlow? .flowMappingEnd
  else if first = ',' then layout.comma?
  else if first = '-' ∧ endsWord rest then layout.item?
  else if first = '?' ∧ isMark then layout.key?
  else if first = ':' ∧ isMark then layout.value?
  else if first = '*' then layout.name? .alias
  else if first = '&' then layout.name? .anchor
  else if first = '!' then layout.tag?
  else if first = '|' ∧ ¬layout.inFlow then layout.blockScalar? .literal
  else if first = '>' ∧ ¬layout.inFlow then layout.blockScalar? .folded
  else if first = '\'' then layout.quotedScalar? .single
  else if first = '"' then layout.quotedScalar? .double
  else if Plain.canBegin layout.inFlow (first :: rest) then layout.plainScalar?
  else none

/-- Read the tokens up to the end of the document. -/
def readTokens? : (fuel : Nat) → Layout → Option (List Token)
  | 0, _ => none
  | fuel + 1, layout => do
    let layout ← (skipGaps (layout.cursor.rest.length + 1) layout).expirePlaces?
    let layout := layout.closeBlocks layout.cursor.column
    match layout.cursor.rest with
    | [] => (layout.closeBlocks none).dropPlace?.map fun layout => layout.tokens.toList
    | first :: rest => readTokens? fuel (← layout.token? first rest)

end Layout

/-- The tokens of a text; a byte order mark in front takes up a column. -/
def tokens? (text : String) : Option (List Token) :=
  let characters := text.toList
  if characters.all isAllowed then
    let rest := joinBreaks characters
    let cursor : Cursor :=
      match rest with
      | '\ufeff' :: rest => ⟨rest, 1, 0⟩
      | _ => ⟨rest, 0, 0⟩
    Layout.readTokens? (rest.length + 1) { cursor }
  else
    none

end Yaml
end TenantLoad
