import TenantLoad.Pattern.Basic
import TenantLoad.Pattern.Property

/-!
# Reading patterns

The textual form of patterns: literals, classes in brackets, groups, flags,
alternatives and repetitions.  A text either has a pattern or has a fault;
which fault it is does not matter to any caller.  Patterns whose groups nest
too deeply or whose repetitions would take too much room are refused too.  The
room is an estimate, so a pattern that comes near to the limit may be judged
wrongly.
-/

namespace TenantLoad
namespace Pattern

/-- The switches that a pattern can set for the rest of a group. -/
structure Flags where
  caseless : Bool := false
  multiline : Bool := false
  dotAll : Bool := false
  anyLineEnd : Bool := false
  verbose : Bool := false
  unicode : Bool := true
  deriving Repr, DecidableEq

/-- A pattern with the depth of its groups and an estimate of its room. -/
structure Sized where
  pattern : Pattern
  depth : Nat
  room : Nat

namespace Reader

/-- The depth of nested groups, classes and repetitions that is allowed. -/
def depthLimit : Nat := 250

/-- The room that the whole pattern may take, in bytes. -/
def roomLimit : Nat := 10485760

/-- Characters with a meaning of their own. -/
def isMeta (character : Char) : Bool :=
  "\\.+*?()|[]\x7b\x7d^$#&-~".toList.contains character

/-- Characters that stand for themselves after a backslash. -/
def isEscapable (character : Char) : Bool :=
  isMeta character ||
    (character.toNat < 0x80 && !character.isAlphanum && character != '<' && character != '>')

/-- Drop a comment up to the end of its line. -/
def skipComment : List Char → List Char
  | [] => []
  | '\n' :: rest => rest
  | _ :: rest => skipComment rest

/-- Drop blanks and comments in verbose patterns. -/
def skipBlanks (flags : Flags) (input : List Char) : List Char :=
  if flags.verbose then go input.length input else input
where
  /-- At most so many characters. -/
  go : Nat → List Char → List Char
    | 0, input => input
    | _, [] => []
    | steps + 1, character :: rest =>
      if Text.isSpace character then go steps rest
      else if character = '#' then go steps (skipComment rest)
      else character :: rest

/-- The value of a hexadecimal digit. -/
def hexDigit? (character : Char) : Option Nat :=
  if character.isDigit then some (character.toNat - '0'.toNat)
  else if 'a' ≤ character ∧ character ≤ 'f' then some (character.toNat - 'a'.toNat + 10)
  else if 'A' ≤ character ∧ character ≤ 'F' then some (character.toNat - 'A'.toNat + 10)
  else none

/-- The character of a code point that is a scalar value. -/
def scalar? (code : Nat) : Option Char :=
  if code.isValidChar then some (Char.ofNat code) else none

/-- The value of hexadecimal digits. -/
def hexValue? (digits : List Char) : Option Nat :=
  digits.foldlM (fun value digit => (hexDigit? digit).map fun digit => value * 16 + digit) 0

/-! ## Escapes -/

/-- What a backslash introduces. -/
inductive Escape where
  | literal (character : Char)
  | byteLiteral (character : Char)
  | set (set : CharSet) (negated : Bool)
  | property (set : CharSet)
  | assertion (condition : Assertion)

/-- A fixed number of hexadecimal digits. -/
def readDigits (flags : Flags) : Nat → List Char → Option (List Char × List Char)
  | 0, input => some ([], input)
  | count + 1, input =>
    match input with
    | digit :: rest =>
      match hexDigit? digit with
      | none => none
      | some _ =>
        (readDigits flags count (skipBlanks flags rest)).map fun (digits, rest) =>
          (digit :: digits, rest)
    | [] => none

/-- The characters up to a closing brace, blanks dropped in verbose patterns. -/
def readBraced (flags : Flags) : Nat → List Char → Option (List Char × List Char)
  | 0, _ => none
  | steps + 1, input =>
    match skipBlanks flags input with
    | [] => none
    | '\x7d' :: rest => some ([], rest)
    | character :: rest =>
      (readBraced flags steps rest).map fun (inner, rest) => (character :: inner, rest)

/-- A character by its code point, in braces or with a fixed number of digits. -/
def readHex (flags : Flags) (count : Nat) (input : List Char) : Option (Escape × List Char) := do
  match skipBlanks flags input with
  | '\x7b' :: rest =>
    let (digits, rest) ← readBraced flags (rest.length + 1) rest
    if digits.isEmpty then none
    let code ← hexValue? digits
    let character ← scalar? code
    pure (.literal character, skipBlanks flags rest)
  | input =>
    let (digits, rest) ← readDigits flags count input
    let code ← hexValue? digits
    let character ← scalar? code
    pure (if count = 2 then .byteLiteral character else .literal character, rest)

/-- Split a text at the first place where a separator stands. -/
def splitAt? (separator : List Char) : List Char → Option (List Char × List Char)
  | [] => none
  | character :: rest =>
    if separator.isPrefixOf (character :: rest) then
      some ([], (character :: rest).drop separator.length)
    else
      (splitAt? separator rest).map fun (left, right) => (character :: left, right)

/-- The set of a property in braces. -/
def bracedProperty? (inner : List Char) : Option CharSet :=
  match splitAt? ['!', '='] inner with
  | some (name, value) =>
    (valuedSet? (String.ofList name) (String.ofList value)).map .complement
  | none =>
    match (splitAt? [':'] inner).or (splitAt? ['='] inner) with
    | some (name, value) => valuedSet? (String.ofList name) (String.ofList value)
    | none => namedSet? (String.ofList inner)

/-- A property after `\p` or `\P`. -/
def readProperty (flags : Flags) (negated : Bool) (input : List Char) :
    Option (Escape × List Char) := do
  if !flags.unicode then none
  let finish (set : CharSet) : Escape :=
    .property (CharSet.negatedIf negated (CharSet.caselessIf flags.caseless set))
  match skipBlanks flags input with
  | '\x7b' :: rest =>
    let (inner, rest) ← readBraced flags (rest.length + 1) rest
    let set ← bracedProperty? inner
    pure (finish set, rest)
  | '\\' :: _ => none
  | character :: rest =>
    let set ← categorySet? (plainName (String.ofList [character]))
    pure (finish set, skipBlanks flags rest)
  | [] => none

/-- The kind of word boundary that a name in braces asks for. -/
def namedBoundary? (ascii : Bool) (name : List Char) : Option Assertion :=
  match String.ofList name with
  | "start" => some (.wordStart ascii)
  | "end" => some (.wordEnd ascii)
  | "start-half" => some (.wordStartHalf ascii)
  | "end-half" => some (.wordEndHalf ascii)
  | _ => none

/-- Characters of the names of word boundaries. -/
def isBoundaryName (character : Char) : Bool := character.isAlpha || character = '-'

/-- The characters of a boundary's name. -/
def readBoundaryName (flags : Flags) : Nat → List Char → List Char × List Char
  | 0, input => ([], input)
  | steps + 1, input =>
    match input with
    | character :: rest =>
      if isBoundaryName character then
        let (name, rest) := readBoundaryName flags steps (skipBlanks flags rest)
        (character :: name, rest)
      else
        ([], input)
    | [] => ([], [])

/-- A word boundary, with a name in braces if one follows. -/
def readBoundary (flags : Flags) (input : List Char) : Option (Escape × List Char) :=
  let plain : Escape := .assertion (.wordEdge !flags.unicode)
  match input with
  | '\x7b' :: rest =>
    match skipBlanks flags rest with
    | [] => none
    | character :: after =>
      if isBoundaryName character then
        match readBoundaryName flags (after.length + 1) (character :: after) with
        | (name, '\x7d' :: rest) =>
          (namedBoundary? (!flags.unicode) name).map fun condition => (.assertion condition, rest)
        | _ => none
      else
        some (plain, input)
  | _ => some (plain, input)

/-- The meaning of what follows a backslash. -/
def readEscape (flags : Flags) (input : List Char) : Option (Escape × List Char) :=
  match input with
  | [] => none
  | character :: rest =>
    match character with
    | 'x' => readHex flags 2 rest
    | 'u' => readHex flags 4 rest
    | 'U' => readHex flags 8 rest
    | 'p' => readProperty flags false rest
    | 'P' => readProperty flags true rest
    | 'd' => some (.set .digit false, rest)
    | 'D' => some (.set .digit true, rest)
    | 's' => some (.set .space false, rest)
    | 'S' => some (.set .space true, rest)
    | 'w' => some (.set .word false, rest)
    | 'W' => some (.set .word true, rest)
    | 'a' => some (.literal '\x07', rest)
    | 'f' => some (.literal '\x0c', rest)
    | 't' => some (.literal '\t', rest)
    | 'n' => some (.literal '\n', rest)
    | 'r' => some (.literal '\r', rest)
    | 'v' => some (.literal '\x0b', rest)
    | 'A' => some (.assertion .textStart, rest)
    | 'z' => some (.assertion .textEnd, rest)
    | 'b' => readBoundary flags rest
    | 'B' => some (.assertion (.notWordEdge !flags.unicode), rest)
    | '<' => some (.assertion (.wordStart !flags.unicode), rest)
    | '>' => some (.assertion (.wordEnd !flags.unicode), rest)
    | _ => if isEscapable character then some (.literal character, rest) else none

/-! ## Sets -/

/-- The ASCII members of the three classes that have a letter. -/
def asciiClass : CharSet → CharSet
  | .digit => .ofRanges [('0', '9')]
  | .space => .ofRanges [('\t', '\r'), (' ', ' ')]
  | .word => .ofRanges [('0', '9'), ('A', 'Z'), ('_', '_'), ('a', 'z')]
  | set => set

/-- The set of a class, which without Unicode may only hold ASCII characters. -/
def classSet? (flags : Flags) (set : CharSet) (negated : Bool) : Option CharSet :=
  if flags.unicode then some (CharSet.negatedIf negated set)
  else if negated then none
  else some (asciiClass set)

/-- The classes that are named within brackets and colons. -/
def namedClass? (name : String) : Option CharSet :=
  match name with
  | "alnum" => some (.ofRanges [('0', '9'), ('A', 'Z'), ('a', 'z')])
  | "alpha" => some (.ofRanges [('A', 'Z'), ('a', 'z')])
  | "ascii" => some (.ofRanges [('\x00', '\x7f')])
  | "blank" => some (.ofRanges [('\t', '\t'), (' ', ' ')])
  | "cntrl" => some (.ofRanges [('\x00', '\x1f'), ('\x7f', '\x7f')])
  | "digit" => some (.ofRanges [('0', '9')])
  | "graph" => some (.ofRanges [('!', '~')])
  | "lower" => some (.ofRanges [('a', 'z')])
  | "print" => some (.ofRanges [(' ', '~')])
  | "punct" => some (.ofRanges [('!', '/'), (':', '@'), ('[', '\x60'), ('\x7b', '~')])
  | "space" => some (.ofRanges [('\t', '\r'), (' ', ' ')])
  | "upper" => some (.ofRanges [('A', 'Z')])
  | "word" => some (.ofRanges [('0', '9'), ('A', 'Z'), ('_', '_'), ('a', 'z')])
  | "xdigit" => some (.ofRanges [('0', '9'), ('A', 'F'), ('a', 'f')])
  | _ => none

/-- A named class after the opening bracket, if one stands there. -/
def readNamedClass (flags : Flags) (input : List Char) : Option (CharSet × List Char) := do
  match input with
  | ':' :: rest =>
    let (negated, rest) : Bool × List Char :=
      match rest with
      | '^' :: rest => (true, rest)
      | rest => (false, rest)
    let (name, rest) ← splitAt? [':', ']'] rest
    let set ← namedClass? (String.ofList name)
    pure (CharSet.negatedIf negated (CharSet.caselessIf flags.caseless set), rest)
  | _ => none

/-- One end of a range, or a whole item, within brackets. -/
inductive Item where
  | literal (character : Char)
  | set (set : CharSet)

/-- One item within brackets. -/
def readItem (flags : Flags) (input : List Char) : Option (Item × List Char) :=
  match input with
  | [] => none
  | '\\' :: rest =>
    match readEscape flags rest with
    | some (.literal character, rest) => some (.literal character, rest)
    | some (.byteLiteral character, rest) =>
      if flags.unicode || decide (character.toNat < 0x80) then some (.literal character, rest)
      else none
    | some (.set set negated, rest) =>
      (classSet? flags set negated).map fun set => (.set set, rest)
    | some (.property set, rest) => some (.set set, rest)
    | some (.assertion _, _) => none
    | none => none
  | character :: rest => some (.literal character, rest)

/-- Characters outside ASCII need Unicode. -/
def literalAllowed (flags : Flags) (character : Char) : Bool :=
  flags.unicode || decide (character.toNat < 0x80)

/-- One item or range within brackets. -/
def readRange (flags : Flags) (input : List Char) : Option (CharSet × List Char) := do
  let (first, rest) ← readItem flags input
  let rest := skipBlanks flags rest
  let asSet (item : Item) : Option CharSet :=
    match item with
    | .literal character =>
      if literalAllowed flags character then some (.single character) else none
    | .set set => some set
  match rest with
  | [] => none
  | '-' :: after =>
    match skipBlanks flags after with
    | ']' :: _ | '-' :: _ => (asSet first).map fun set => (set, rest)
    | [] => none
    | after =>
      let (second, rest) ← readItem flags after
      match first, second with
      | .literal first, .literal second =>
        if first ≤ second ∧ literalAllowed flags first ∧ literalAllowed flags second then
          some (.range first second, rest)
        else
          none
      | _, _ => none
  | rest => (asSet first).map fun set => (set, rest)

/-- The three operations between sets within brackets. -/
inductive SetOperation where
  | intersection
  | difference
  | symmetricDifference

/-- Combine two sets, each first taken regardless of case if asked for. -/
def SetOperation.apply (caseless : Bool) (operation : SetOperation) (left right : CharSet) :
    CharSet :=
  let left := CharSet.caselessIf caseless left
  let right := CharSet.caselessIf caseless right
  match operation with
  | .intersection => .inter left right
  | .difference => .difference left right
  | .symmetricDifference => .symmetricDifference left right

/-- The operation at the start of the input, if there is one. -/
def setOperation? : List Char → Option (SetOperation × List Char)
  | '&' :: '&' :: rest => some (.intersection, rest)
  | '-' :: '-' :: rest => some (.difference, rest)
  | '~' :: '~' :: rest => some (.symmetricDifference, rest)
  | _ => none

/-- A set under construction: the operation and the set that wait on the left. -/
abbrev Waiting := Option (CharSet × SetOperation)

/-- Apply the operation that waits. -/
def closeOperation (caseless : Bool) (waiting : Waiting) (set : CharSet) : CharSet :=
  match waiting with
  | none => set
  | some (left, operation) => operation.apply caseless left set

/-- Leading hyphens, and a closing bracket at the very start, stand for
themselves. -/
def readLeading (flags : Flags) : Nat → CharSet → List Char → CharSet × List Char
  | 0, set, input => (set, input)
  | steps + 1, set, input =>
    match input with
    | '-' :: rest => readLeading flags steps (.single '-') (skipBlanks flags rest)
    | ']' :: rest =>
      if set = .none then (.single ']', skipBlanks flags rest) else (set, input)
    | input => (set, input)

mutual

/-- A set after its opening bracket.  The result has the depth of its
brackets. -/
def readSet (flags : Flags) : Nat → List Char → Option (CharSet × Nat × List Char)
  | 0, _ => none
  | steps + 1, input =>
    match skipBlanks flags input with
    | [] => none
    | '^' :: rest =>
      let (leading, rest) := readLeading flags (rest.length + 1) .none (skipBlanks flags rest)
      (readSetItems flags steps none leading 0 rest).bind fun (set, depth, rest) =>
        if flags.unicode then
          some (.complement (CharSet.caselessIf flags.caseless set), depth + 1, rest)
        else
          none
    | input =>
      let (leading, rest) := readLeading flags (input.length + 1) .none input
      (readSetItems flags steps none leading 0 rest).map fun (set, depth, rest) =>
        (CharSet.caselessIf flags.caseless set, depth + 1, rest)

/-- The items of a set up to its closing bracket. -/
def readSetItems (flags : Flags) :
    Nat → Waiting → CharSet → Nat → List Char → Option (CharSet × Nat × List Char)
  | 0, _, _, _, _ => none
  | steps + 1, waiting, set, depth, input =>
    match skipBlanks flags input with
    | [] => none
    | ']' :: rest => some (closeOperation flags.caseless waiting set, depth, rest)
    | '[' :: rest =>
      match readNamedClass flags rest with
      | some (class_, rest) => readSetItems flags steps waiting (.union set class_) depth rest
      | none =>
        match readSet flags steps rest with
        | none => none
        | some (inner, innerDepth, rest) =>
          readSetItems flags steps waiting (.union set inner) (max depth innerDepth) rest
    | input =>
      match setOperation? input with
      | some (operation, rest) =>
        readSetItems flags steps
          (some (closeOperation flags.caseless waiting set, operation)) .none (depth + 1) rest
      | none =>
        match readRange flags input with
        | none => none
        | some (item, rest) => readSetItems flags steps waiting (.union set item) depth rest

end

/-! ## Patterns -/

/-- The room of a set of characters, by rule of thumb: what a compiled set takes
depends on how its ranges share their bytes. -/
def setRoom : CharSet → Nat
  | .none => 40
  | .range first last =>
    if last.toNat < 0x80 then 40 else if first.toNat < 0x80 then 300 else 120
  | .ranges bounds => 40 + 60 * bounds.length
  | .category _ => 20000
  | .word => 52000
  | .digit => 5000
  | .space => 800
  | .alphabetic => 48000
  | .union left right => setRoom left + setRoom right
  | .inter left right => max (setRoom left) (setRoom right)
  | .complement set => setRoom set + 400
  | .caseless set => setRoom set + 30

/-- The pattern of a set. -/
def ofSet (set : CharSet) : Sized := ⟨.oneOf set, 0, setRoom set⟩

/-- The pattern of a literal character. -/
def ofLiteral (flags : Flags) (character : Char) : Sized :=
  if flags.caseless ∧ (flags.unicode ∨ character.toNat < 0x80) then
    if flags.unicode then ⟨.folded character, 0, 60 * character.utf8Size⟩
    else
      ⟨.oneOf (.ranges [(character.toLower.toNat, character.toLower.toNat),
        (character.toUpper.toNat, character.toUpper.toNat)]), 0, 60⟩
  else
    ⟨.oneOf (.single character), 0, 40 * character.utf8Size⟩

/-- The characters that a dot stands for. -/
def dotSet (flags : Flags) : CharSet :=
  if flags.dotAll then .any
  else if flags.anyLineEnd then .complement (.union (.single '\n') (.single '\r'))
  else .complement (.single '\n')

/-- A single character, class, escape or assertion. -/
def readPrimitive (flags : Flags) (input : List Char) : Option (Sized × List Char) :=
  match input with
  | [] => none
  | '.' :: rest => if flags.unicode then some (⟨.oneOf (dotSet flags), 0, 800⟩, rest) else none
  | '^' :: rest =>
    let condition : Assertion :=
      if flags.multiline then (if flags.anyLineEnd then .anyLineStart else .lineStart)
      else .textStart
    some (⟨.assertion condition, 0, 40⟩, rest)
  | '$' :: rest =>
    let condition : Assertion :=
      if flags.multiline then (if flags.anyLineEnd then .anyLineEnd else .lineEnd)
      else .textEnd
    some (⟨.assertion condition, 0, 40⟩, rest)
  | '\\' :: rest =>
    match readEscape flags rest with
    | none => none
    | some (.literal character, rest) => some (ofLiteral flags character, rest)
    | some (.byteLiteral character, rest) =>
      if flags.unicode ∨ character.toNat < 0x80 then some (ofLiteral flags character, rest)
      else none
    | some (.set set negated, rest) =>
      (classSet? flags set negated).map fun set => (ofSet set, rest)
    | some (.property set, rest) => some (ofSet set, rest)
    | some (.assertion condition, rest) => some (⟨.assertion condition, 0, 40⟩, rest)
  | character :: rest => some (ofLiteral flags character, rest)

/-- A whole number of at most 32 bits, blanks around it dropped. -/
def readCount (flags : Flags) (input : List Char) : Option (Option Nat × List Char) :=
  let input := input.dropWhile Text.isSpace
  let (digits, rest) := digitsOf (input.length + 1) input
  let rest := skipBlanks flags (rest.dropWhile Text.isSpace)
  let value := digits.foldl (fun value digit => value * 10 + (digit.toNat - '0'.toNat)) 0
  if digits.isEmpty then some (none, rest)
  else if value < 0x100000000 then some (some value, rest)
  else none
where
  /-- The digits at the start, blanks between them dropped in verbose patterns. -/
  digitsOf : Nat → List Char → List Char × List Char
    | 0, input => ([], input)
    | steps + 1, input =>
      match input with
      | digit :: rest =>
        if digit.isDigit then
          let (digits, rest) := digitsOf steps (skipBlanks flags rest)
          (digit :: digits, rest)
        else
          ([], input)
      | [] => ([], [])

/-- The bounds of a counted repetition after its opening brace. -/
def readBounds (flags : Flags) (input : List Char) :
    Option ((Nat × Option Nat) × List Char) := do
  let input := skipBlanks flags input
  if input.isEmpty then none
  let (least, rest) ← readCount flags input
  match rest with
  | ',' :: rest =>
    match skipBlanks flags rest with
    | '\x7d' :: rest =>
      let least ← least
      pure ((least, none), rest)
    | rest =>
      let least ← least
      let (most, rest) ← readCount flags rest
      let most ← most
      match rest with
      | '\x7d' :: rest => if least ≤ most then pure ((least, some most), rest) else none
      | _ => none
  | '\x7d' :: rest =>
    let least ← least
    pure ((least, some least), rest)
  | _ => none

/-- Drop the mark that makes a repetition prefer fewer rounds: whether there
is a match does not depend on it. -/
def skipLazyMark : List Char → List Char
  | '?' :: rest => rest
  | input => input

/-- A repetition of a pattern. -/
def repeated (body : Sized) (least : Nat) (most : Option Nat) : Sized :=
  let rounds := max 1 (most.getD (least + 1))
  ⟨.repetition body.pattern least most, body.depth + 1, body.room * rounds + 60⟩

/-- The switch of a letter. -/
def setFlag? (flags : Flags) (value : Bool) : Char → Option Flags
  | 'i' => some { flags with caseless := value }
  | 'm' => some { flags with multiline := value }
  | 's' => some { flags with dotAll := value }
  | 'U' => some flags
  | 'u' => some { flags with unicode := value }
  | 'R' => some { flags with anyLineEnd := value }
  | 'x' => some { flags with verbose := value }
  | _ => none

/-- Flags up to a colon or a closing parenthesis.  `seen` holds the letters
so far, `negated` whether a minus sign stood before them and `dangling`
whether it was the last. -/
def readFlags : List Char → Bool → Bool → Flags → List Char → Option (Flags × List Char)
  | _, _, _, _, [] => none
  | seen, negated, dangling, flags, character :: rest =>
    if character = ':' ∨ character = ')' then
      if dangling then none else some (flags, character :: rest)
    else if character = '-' then
      if negated then none else readFlags seen true true flags rest
    else if seen.contains character then none
    else
      match setFlag? flags (!negated) character with
      | none => none
      | some flags => readFlags (character :: seen) negated false flags rest

/-- Characters that the name of a group may have. -/
def isNameChar (first : Bool) (character : Char) : Bool :=
  if first then character = '_' || Text.isAlphabetic character
  else
    character = '_' || character = '.' || character = '[' || character = ']' ||
      Text.isAlphabetic character || Text.hasCategory character ["Nd", "Nl", "No"]

/-- The name of a group up to its closing angle. -/
def readGroupName (input : List Char) : Option (String × List Char) :=
  let name := input.takeWhile fun character => character ≠ '>'
  match name, input.dropWhile fun character => character ≠ '>' with
  | first :: others, '>' :: rest =>
    if isNameChar true first && others.all (isNameChar false) then
      some (String.ofList name, rest)
    else
      none
  | _, _ => none

/-- What an opening parenthesis starts. -/
inductive Opening where
  | group (flags : Flags) (name : Option String)
  | flags (flags : Flags)

/-- Read what follows an opening parenthesis. -/
def readOpening (flags : Flags) (input : List Char) : Option (Opening × List Char) :=
  match skipBlanks flags input with
  | '?' :: '=' :: _ | '?' :: '!' :: _ => none
  | '?' :: '<' :: '=' :: _ | '?' :: '<' :: '!' :: _ => none
  | '?' :: 'P' :: '<' :: rest | '?' :: '<' :: rest =>
    (readGroupName rest).map fun (name, rest) => (.group flags (some name), rest)
  | '?' :: rest =>
    match readFlags [] false false flags rest with
    | some (inner, ')' :: after) =>
      match rest with
      | ')' :: _ => none
      | _ => some (.flags inner, after)
    | some (inner, _ :: after) => some (.group inner none, after)
    | _ => none
  | input => some (.group flags none, input)

/-- What has been read of a group. -/
structure Progress where
  /-- The flags in force. -/
  flags : Flags
  /-- The names of groups so far. -/
  names : List String
  /-- The finished alternatives in reverse. -/
  alternatives : List Sized
  /-- The items of the current alternative in reverse; `none` stands for a
  change of flags, which cannot be repeated. -/
  items : List (Option Sized)

/-- The current alternative as one pattern. -/
def Progress.current (progress : Progress) : Sized :=
  let items := progress.items.reverse.filterMap id
  let nesting := if 1 < progress.items.length then 1 else 0
  ⟨ofSequence (items.map Sized.pattern), items.foldl (fun depth item => max depth item.depth) 0
      + nesting,
    items.foldl (fun room item => room + item.room) 0⟩

/-- The whole group as one pattern. -/
def Progress.result (progress : Progress) : Sized :=
  match progress.alternatives.reverse with
  | [] => progress.current
  | first :: rest =>
    let others := rest ++ [progress.current]
    ⟨ofAlternatives first.pattern (others.map Sized.pattern),
      others.foldl (fun depth item => max depth item.depth) first.depth + 1,
      others.foldl (fun room item => room + item.room) first.room⟩

/-- Replace the last item by its repetition. -/
def Progress.repeatLast (progress : Progress) (least : Nat) (most : Option Nat) :
    Option Progress :=
  match progress.items with
  | some body :: rest =>
    some { progress with items := some (repeated body least most) :: rest }
  | _ => none

/-- Read a group up to its closing parenthesis, or to the end at the top. -/
def readGroup (top : Bool) : Nat → Progress → List Char → Option (Progress × List Char)
  | 0, _, _ => none
  | steps + 1, progress, input =>
    match skipBlanks progress.flags input with
    | [] => if top then some (progress, []) else none
    | ')' :: rest => if top then none else some (progress, rest)
    | '|' :: rest =>
      readGroup top steps
        { progress with
          alternatives := progress.current :: progress.alternatives
          items := [] } rest
    | '(' :: rest =>
      match readOpening progress.flags rest with
      | none => none
      | some (.flags flags, rest) =>
        readGroup top steps { progress with flags := flags, items := none :: progress.items } rest
      | some (.group flags name, rest) =>
        let duplicate := (name.map progress.names.contains).getD false
        if duplicate then none
        else
          let names := name.toList ++ progress.names
          match readGroup false steps ⟨flags, names, [], []⟩ rest with
          | none => none
          | some (inner, rest) =>
            let body := inner.result
            readGroup top steps
              { progress with
                names := inner.names
                items := some ⟨body.pattern, body.depth + 1, body.room + 80⟩ :: progress.items }
              rest
    | '[' :: rest =>
      match readSet progress.flags (2 * rest.length + 2) rest with
      | none => none
      | some (set, depth, rest) =>
        readGroup top steps
          { progress with items := some ⟨.oneOf set, depth, setRoom set⟩ :: progress.items } rest
    | '?' :: rest =>
      match progress.repeatLast 0 (some 1) with
      | none => none
      | some progress => readGroup top steps progress (skipLazyMark rest)
    | '*' :: rest =>
      match progress.repeatLast 0 none with
      | none => none
      | some progress => readGroup top steps progress (skipLazyMark rest)
    | '+' :: rest =>
      match progress.repeatLast 1 none with
      | none => none
      | some progress => readGroup top steps progress (skipLazyMark rest)
    | '\x7b' :: rest =>
      match readBounds progress.flags rest with
      | none => none
      | some ((least, most), rest) =>
        match progress.repeatLast least most with
        | none => none
        | some progress =>
          readGroup top steps progress (skipLazyMark (skipBlanks progress.flags rest))
    | input =>
      match readPrimitive progress.flags input with
      | none => none
      | some (item, rest) =>
        readGroup top steps { progress with items := some item :: progress.items } rest

end Reader

/-- What is said of a text that has no pattern. -/
def fault : String := "<regex>"

/-- The pattern of a text, if the text has one.  A caseless reading starts
with letters compared by their simple case fold. -/
def read? (caseless : Bool) (text : String) : Option Pattern := do
  let input := text.toList
  let start : Reader.Progress := ⟨{ caseless := caseless }, [], [], []⟩
  let (progress, _) ← Reader.readGroup true (input.length + 1) start input
  let result := progress.result
  if result.depth ≤ Reader.depthLimit ∧ result.room ≤ Reader.roomLimit then
    some result.pattern
  else
    none

end Pattern
end TenantLoad
