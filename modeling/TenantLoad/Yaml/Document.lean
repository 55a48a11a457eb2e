import TenantLoad.Yaml.Node

/-!
# The tree of a document

A document is built from its tokens.  Its text must hold one document and
nothing after it; a text without tokens is an empty document.
-/

namespace TenantLoad
namespace Yaml
namespace Document

/-- What has been learned while the tree is built. -/
structure Progress where
  /-- The tokens that are left. -/
  tokens : List Token
  /-- What handles stand for. -/
  handles : List (String × String)
  /-- The numbers of the anchors by their names. -/
  anchors : List (String × Nat) := []

/-- Building a part of the tree, which may fail. -/
abbrev Builder := StateT Progress Option

/-- What the handles stand for that need no directive. -/
def standardHandles : List (String × String) := [("!", "!"), ("!!", "tag:yaml.org,2002:")]

/-- The next token. -/
def peek : Builder (Option Token) := do return (← get).tokens.head?

/-- Go past the next token. -/
def skip : Builder Unit :=
  modify fun progress => { progress with tokens := progress.tokens.drop 1 }

/-- Go past the next token if it is the given one. -/
def accept (token : Token) : Builder Bool := do
  if (← peek) = some token then
    skip
    return true
  else
    return false

/-- Go past the given token, which must be the next. -/
def expect (token : Token) : Builder Unit := do
  if !(← accept token) then failure

/-- Whether the next token is among the given ones. -/
def isNext (tokens : List Token) : Builder Bool := do
  return (← peek).any fun token => tokens.contains token

/-- The name of the type that a tag gives. -/
def resolveTag (tag : Tag) : Builder String := do
  if tag.handle = "" then return tag.suffix
  match (← get).handles.lookup tag.handle with
  | some start => return start ++ tag.suffix
  | none => failure

/-- Give a name the next number: that of names known so far. -/
def number (name : String) : Builder Nat := do
  let progress ← get
  let number := progress.anchors.length
  let others := progress.anchors.filter fun anchor => anchor.1 != name
  set { progress with anchors := (name, number) :: others }
  return number

/-- The anchor that stands here. -/
def readAnchor : Builder (Option String) := do
  match ← peek with
  | some (.anchor name) =>
    skip
    return some name
  | _ => return none

/-- The tag that stands here. -/
def readTag : Builder (Option String) := do
  match ← peek with
  | some (.tag tag) =>
    skip
    return some (← resolveTag tag)
  | _ => return none

/-- The anchor and the tag that stand here, in either order. -/
def readMarks : Builder Marks := do
  let first ← readAnchor
  let tag ← readTag
  let anchor ← if tag.isSome && first.isNone then readAnchor else pure first
  match anchor with
  | none => return { tag }
  | some name => return { anchor := some (← number name), tag }

/-- The tag of a scalar: a lone mark says nothing. -/
def scalarMarks (marks : Marks) : Marks :=
  if marks.tag = some "!" then { marks with tag := none } else marks

mutual

/-- The node that stands here; a collection in block form only where one may
stand, and items without further indentation only after a key. -/
def readNode (inBlock takesItems : Bool) : (fuel : Nat) → Builder Node
  | 0 => failure
  | fuel + 1 => do
    if let some (.alias name) := ← peek then
      skip
      match (← get).anchors.lookup name with
      | some number => return .alias number
      | none => failure
    let marks ← readMarks
    match ← peek with
    | some (.scalar style text) =>
      skip
      return .scalar (scalarMarks marks) style text
    | some .flowSequence =>
      skip
      return .sequence marks (← readFlowItems true fuel)
    | some .flowMapping =>
      skip
      return .mapping marks (← readFlowEntries true fuel)
    | next =>
      if takesItems ∧ next = some .item then
        return .sequence marks (← readItems [.item, .key, .value, .blockEnd] fuel)
      else if inBlock ∧ next = some .blockSequence then
        skip
        let items ← readItems [.item, .blockEnd] fuel
        expect .blockEnd
        return .sequence marks items
      else if inBlock ∧ next = some .blockMapping then
        skip
        let entries ← readEntries fuel
        expect .blockEnd
        return .mapping marks entries
      else if marks = {} then failure
      else return .scalar marks .plain ""

/-- The node that stands here, or an empty one before the given tokens. -/
def readNodeOr (stops : List Token) (inBlock takesItems : Bool) : (fuel : Nat) → Builder Node
  | 0 => failure
  | fuel + 1 => do
    if ← isNext stops then return .empty else readNode inBlock takesItems fuel

/-- The items in block form that stand here. -/
def readItems (stops : List Token) : (fuel : Nat) → Builder (List Node)
  | 0 => failure
  | fuel + 1 => do
    if ← accept .item then
      let item ← readNodeOr stops true false fuel
      return item :: (← readItems stops fuel)
    else
      return []

/-- The entries in block form that stand here. -/
def readEntries : (fuel : Nat) → Builder (List (Node × Node))
  | 0 => failure
  | fuel + 1 => do
    if ← accept .key then
      let stops : List Token := [.key, .value, .blockEnd]
      let key ← readNodeOr stops true true fuel
      let value ← if ← accept .value then readNodeOr stops true true fuel else pure .empty
      return (key, value) :: (← readEntries fuel)
    else
      return []

/-- The items that stand here up to the closing bracket. -/
def readFlowItems (isFirst : Bool) : (fuel : Nat) → Builder (List Node)
  | 0 => failure
  | fuel + 1 => do
    if ← accept .flowSequenceEnd then return []
    if !isFirst then
      expect .comma
      if ← accept .flowSequenceEnd then return []
    let item ← if ← accept .key then readPair fuel else readNode false false fuel
    return item :: (← readFlowItems false fuel)

/-- The only entry of a mapping that is written among items; where its key is
missing, the token after the mark of the key is dropped. -/
def readPair : (fuel : Nat) → Builder Node
  | 0 => failure
  | fuel + 1 => do
    let key ←
      if ← isNext [.value, .comma, .flowSequenceEnd] then
        skip
        pure .empty
      else
        readNode false false fuel
    let value ←
      if ← accept .value then readNodeOr [.comma, .flowSequenceEnd] false false fuel
      else pure .empty
    return .mapping {} [(key, value)]

/-- The entries that stand here up to the closing bracket. -/
def readFlowEntries (isFirst : Bool) : (fuel : Nat) → Builder (List (Node × Node))
  | 0 => failure
  | fuel + 1 => do
    if ← accept .flowMappingEnd then return []
    if !isFirst then
      expect .comma
      if ← accept .flowMappingEnd then return []
    let entry ←
      if ← accept .key then do
        let key ← readNodeOr [.value, .comma, .flowMappingEnd] false false fuel
        let value ←
          if ← accept .value then readNodeOr [.comma, .flowMappingEnd] false false fuel
          else pure .empty
        pure (key, value)
      else do
        let key ← readNode false false fuel
        pure (key, Node.empty)
    return entry :: (← readFlowEntries false fuel)

end

/-- Take the directives that stand here: at most one version, which must be
known, and every handle once. -/
def readDirectives : (fuel : Nat) → (hasVersion : Bool) → (handles : List (String × String)) →
    Builder (List (String × String))
  | 0, _, _ => failure
  | fuel + 1, hasVersion, handles => do
    match ← peek with
    | some (.directive (.version major minor)) =>
      skip
      if hasVersion || major ≠ 1 || !(minor = 1 || minor = 2) then failure
      readDirectives fuel true handles
    | some (.directive (.meaning handle start)) =>
      skip
      if (handles.lookup handle).isSome then failure
      readDirectives fuel hasVersion ((handle, start) :: handles)
    | _ => return handles

/-- Whether the next token is outside the content of a document. -/
def isOutside : Builder Bool := do
  match ← peek with
  | none | some .documentStart | some .documentEnd | some (.directive _) => return true
  | _ => return false

/-- The root of the document that stands here. -/
def readRoot (fuel : Nat) : Builder Node := do
  match ← peek with
  | none => return .empty
  | some .documentStart | some (.directive _) =>
    let handles ← readDirectives fuel false []
    modify fun progress => { progress with handles := handles ++ standardHandles }
    expect .documentStart
    if ← isOutside then return .empty else readNode true false fuel
  | some _ => readNode true false fuel

/-- The steps that building the tree of so many tokens takes at most. -/
def stepLimit (tokens : List Token) : Nat := 4 * tokens.length + 8

/-- The root of the only document in a text. -/
def parse? (text : String) : Option Node := do
  let tokens ← tokens? text
  let (root, progress) ←
    (readRoot (stepLimit tokens)).run { tokens, handles := standardHandles }
  if progress.tokens.all (· == .documentEnd) then return root else none

end Document
end Yaml
end TenantLoad
