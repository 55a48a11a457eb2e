import TenantLoad.Yaml.Scalar.Quoted

/-!
# Tags and directives

A tag names the type of a node.  It is written in full between angle brackets
or as a handle with a suffix; directives in front of a document say what the
handles stand for.
-/

namespace TenantLoad
namespace Yaml

/-- A tag as it is written: without a handle it is complete. -/
structure Tag where
  handle : String
  suffix : String
  deriving Repr, DecidableEq

namespace Tag

/-- Whether a character may occur in a tag; commas and square brackets only
where the tag has brackets of its own or is that of a directive. -/
def isTagChar (isVerbatim : Bool) (character : Char) : Bool :=
  isNameChar character || ";/?:@&=+$.%!~*'()".toList.contains character ||
    (isVerbatim && [',', '[', ']'].contains character)

/-- The byte that an escape of two digits stands for. -/
def readByte? (rest : List Char) : Option Nat :=
  match rest with
  | '%' :: high :: low :: _ => Quoted.codeValue? [high, low]
  | _ => none

/-- The number of bytes of a character by its first byte. -/
def byteCount? (first : Nat) : Option Nat :=
  if first < 0x80 then some 1
  else if first / 0x20 = 6 then some 2
  else if first / 0x10 = 14 then some 3
  else if first / 0x08 = 30 then some 4
  else none

/-- The character that escaped bytes stand for, and the length of its
escapes. -/
def readEscape? (rest : List Char) : Option (Char × Nat) := do
  let count ← byteCount? (← readByte? rest)
  let bytes ← (List.range count).mapM fun index => readByte? (rest.drop (3 * index))
  if (bytes.drop 1).any (fun byte => byte / 0x40 ≠ 2) then none
  let text := String.fromUTF8? ⟨(bytes.map UInt8.ofNat).toArray⟩
  return (((text.map String.toList).bind List.head?).getD '\ufffd', 3 * count)

/-- The characters of a tag that stand here. -/
def readUri? (isVerbatim : Bool) : (fuel : Nat) → Cursor → Option (List Char × Cursor)
  | 0, _ => none
  | fuel + 1, cursor =>
    match cursor.rest with
    | [] => some ([], cursor)
    | first :: _ =>
      if !isTagChar isVerbatim first then some ([], cursor)
      else if first = '%' then
        match readEscape? cursor.rest with
        | some (character, length) =>
          (readUri? isVerbatim fuel (cursor.skip length)).map fun (uri, cursor) =>
            (character :: uri, cursor)
        | none => none
      else
        (readUri? isVerbatim fuel (cursor.skip 1)).map fun (uri, cursor) => (first :: uri, cursor)

/-- The characters of a tag that stand here, if there are any. -/
def readSomeUri? (isVerbatim : Bool) (cursor : Cursor) : Option (List Char × Cursor) := do
  let (uri, cursor) ← readUri? isVerbatim (cursor.rest.length + 1) cursor
  if uri.isEmpty then none else return (uri, cursor)

/-- The handle that stands here, with or without an exclamation mark at its
end. -/
def readHandle? (cursor : Cursor) : Option (List Char × Cursor) :=
  match cursor.rest with
  | '!' :: _ =>
    let (name, cursor) := (cursor.skip 1).take isNameChar
    if cursor.rest.head? = some '!' then some ('!' :: name ++ ['!'], cursor.skip 1)
    else some ('!' :: name, cursor)
  | _ => none

/-- Whether a handle is one: a lone mark or a name between two marks. -/
def isHandle (handle : List Char) : Bool := handle.length > 1 && handle.getLast? == some '!'

/-- The tag between angle brackets that stands here. -/
def readVerbatim? (cursor : Cursor) : Option (Tag × Cursor) := do
  let (uri, cursor) ← readSomeUri? true (cursor.skip 2)
  if cursor.rest.head? = some '>' then return (⟨"", String.ofList uri⟩, cursor.skip 1) else none

/-- The tag with a handle that stands here; a lone mark is a tag as well. -/
def readShort? (cursor : Cursor) : Option (Tag × Cursor) := do
  let (handle, cursor) ← readHandle? cursor
  if isHandle handle then
    let (uri, cursor) ← readSomeUri? false cursor
    return (⟨String.ofList handle, String.ofList uri⟩, cursor)
  else
    let (uri, cursor) ← readUri? false (cursor.rest.length + 1) cursor
    let suffix := handle.drop 1 ++ uri
    return (if suffix.isEmpty then ⟨"", "!"⟩ else ⟨"!", String.ofList suffix⟩, cursor)

/-- The tag that stands here; a gap must follow it, or within brackets a
comma. -/
def read? (inFlow : Bool) (cursor : Cursor) : Option (Tag × Cursor) := do
  let (tag, cursor) ←
    if cursor.rest[1]? = some '<' then readVerbatim? cursor else readShort? cursor
  if (inFlow && cursor.rest.head? == some ',') || endsWord cursor.rest then
    return (tag, cursor)
  else
    none

end Tag

/-- A directive in front of a document. -/
inductive Directive where
  | version (major minor : Nat)
  /-- What the suffixes of a handle are put after. -/
  | meaning (handle start : String)
  deriving Repr, DecidableEq

namespace Directive

/-- The number of at most nine digits that stands here. -/
def readNumber? (cursor : Cursor) : Option (Nat × Cursor) :=
  let (digits, cursor) := cursor.take Char.isDigit
  if digits.isEmpty ∨ 9 < digits.length then none
  else
    some (digits.foldl (fun value digit => 10 * value + (digit.toNat - '0'.toNat)) 0, cursor)

/-- The version that stands here. -/
def readVersion? (cursor : Cursor) : Option (Directive × Cursor) := do
  let (major, cursor) ← readNumber? cursor.skipBlanks
  if cursor.rest.head? ≠ some '.' then none
  let (minor, cursor) ← readNumber? (cursor.skip 1)
  return (.version major minor, cursor)

/-- The handle and its meaning that stand here. -/
def readMeaning? (cursor : Cursor) : Option (Directive × Cursor) := do
  let (handle, cursor) ← Tag.readHandle? cursor.skipBlanks
  if !(Tag.isHandle handle || handle == ['!']) || !(cursor.rest.head?.any isBlank) then none
  let (uri, cursor) ← Tag.readSomeUri? true cursor.skipBlanks
  if endsWord cursor.rest then
    return (.meaning (String.ofList handle) (String.ofList uri), cursor)
  else
    none

/-- The directive that stands here, up to the end of its line. -/
def read? (cursor : Cursor) : Option (Directive × Cursor) := do
  let (name, cursor) := (cursor.skip 1).take isNameChar
  if !endsWord cursor.rest then none
  let (directive, cursor) ←
    if name = "YAML".toList then readVersion? cursor
    else if name = "TAG".toList then readMeaning? cursor
    else none
  return (directive, ← cursor.finishLine?)

end Directive
end Yaml
end TenantLoad
