import TenantLoad.Json.Basic
import TenantLoad.Yaml.Word

/-!
# Writing documents

Values are written in block form: the fields of a record one below the other,
those of an inner record two columns further in, and the items of a list in
the column of their field.  A text is plain where that reads back as the same
text, in single quotes where a plain one would not, literal if it has several
lines, and in double quotes if it has characters that need an escape.
-/

namespace TenantLoad
namespace Yaml
namespace Printer

/-- Whether a character is written as it is outside double quotes. -/
def isPrintable (character : Char) : Bool :=
  let code := character.toNat
  code == 0x0A || (0x20 ≤ code && code ≤ 0x7E) ||
    (0xA0 ≤ code && code ≤ 0xFFFD && code ≠ 0xFEFF)

/-- What the characters of a text allow for its style. -/
structure Features where
  /-- A mark that means something else in a plain scalar. -/
  hasIndicator : Bool
  hasBreak : Bool
  /-- A space or a line break at either end. -/
  hasOuterGap : Bool
  hasTrailingSpace : Bool
  hasSpaceAfterBreak : Bool
  hasSpaceBeforeBreak : Bool
  /-- A character that needs an escape. -/
  hasSpecial : Bool
  deriving Repr, DecidableEq

/-- The marks that a plain scalar never begins with. -/
def firstMarks : List Char := "#,[]\x7b\x7d&*!|>'\"%@".toList ++ [Char.ofNat 0x60]

/-- Whether a mark stands in a text that has a meaning there: at the start,
before a gap or after one. -/
def hasInnerIndicator (afterGap : Bool) : List Char → Bool
  | [] => false
  | character :: rest =>
    (character == ':' && endsWord rest) || (character == '#' && afterGap) ||
      hasInnerIndicator (isGap character) rest

/-- Whether a mark in a text has a meaning. -/
def hasIndicator (text : List Char) : Bool :=
  match text with
  | [] => false
  | first :: rest =>
    ["---".toList, "...".toList].contains (text.take 3) || firstMarks.contains first ||
      (['?', ':', '-'].contains first && endsWord rest) || hasInnerIndicator (isGap first) rest

/-- Whether a character of one class is followed by one of another. -/
def hasPair (isFirst isSecond : Char → Bool) : List Char → Bool
  | first :: second :: rest =>
    (isFirst first && isSecond second) || hasPair isFirst isSecond (second :: rest)
  | _ => false

/-- The features of a text. -/
def features (text : List Char) : Features :=
  let isSpace (character : Char) : Bool := character == ' '
  let isOuter (character : Char) : Bool := isSpace character || isBreak character
  { hasIndicator := hasIndicator text
    hasBreak := text.any isBreak
    hasOuterGap := text.head?.any isOuter || text.getLast?.any isOuter
    hasTrailingSpace := text.getLast?.any isSpace
    hasSpaceAfterBreak := hasPair isBreak isSpace text
    hasSpaceBeforeBreak := hasPair isSpace isBreak text
    hasSpecial := text.any fun character => !isPrintable character }

/-- The styles that a text may be written in. -/
inductive TextStyle where
  | plain
  | single
  | double
  | literal
  deriving Repr, DecidableEq

/-- The style of a text. -/
def textStyle (text : String) : TextStyle :=
  let found := features text.toList
  let needsEscape := found.hasSpaceBeforeBreak || found.hasSpecial
  if text.toList.contains '\n' then
    if needsEscape || found.hasTrailingSpace then .double else .literal
  else if needsEscape || found.hasSpaceAfterBreak then .double
  else if Word.isAmbiguous text || found.hasBreak || found.hasOuterGap || found.hasIndicator then
    .single
  else .plain

/-- The letters of the escapes that have one. -/
def escapeLetters : List (Nat × Char) :=
  [(0x00, '0'), (0x07, 'a'), (0x08, 'b'), (0x09, 't'), (0x0A, 'n'), (0x0B, 'v'), (0x0C, 'f'),
    (0x0D, 'r'), (0x1B, 'e'), (0x22, '"'), (0x5C, '\\'), (0x85, 'N'), (0xA0, '_'),
    (0x2028, 'L'), (0x2029, 'P')]

/-- A code in so many hexadecimal digits. -/
def codeDigits (count code : Nat) : List Char :=
  let digits := (Nat.toDigits 16 code).map Char.toUpper
  List.replicate (count - digits.length) '0' ++ digits

/-- The escape of a character. -/
def escape (character : Char) : List Char :=
  let code := character.toNat
  '\\' ::
    match escapeLetters.lookup code with
    | some letter => [letter]
    | none =>
      if code ≤ 0xFF then 'x' :: codeDigits 2 code
      else if code ≤ 0xFFFF then 'u' :: codeDigits 4 code
      else 'U' :: codeDigits 8 code

/-- Whether a character is escaped between double quotes. -/
def needsEscape (character : Char) : Bool :=
  !isPrintable character || isBreak character || character == '"' || character == '\\'

/-- A text in double quotes. -/
def double (text : List Char) : List Char :=
  '"' :: (text.flatMap fun character =>
    if needsEscape character then escape character else [character]) ++ ['"']

/-- A text in single quotes; a line is indented after a line break. -/
def single (indent : Nat) (text : List Char) : List Char :=
  '\'' :: write false text ++ ['\'']
where
  /-- The characters after a line break or another character. -/
  write (afterBreak : Bool) : List Char → List Char
    | [] => if afterBreak then List.replicate indent ' ' else []
    | character :: rest =>
      if isBreak character then character :: write true rest
      else
        (if afterBreak then List.replicate indent ' ' else []) ++
          (if character = '\'' then ['\'', '\''] else [character]) ++ write false rest

/-- The header of a literal text: its indentation where the text would hide
it, and what becomes of the line breaks at its end. -/
def literalHeader (text : List Char) : List Char :=
  let indentHint := if text.head?.any fun first => first == ' ' || isBreak first then ['2'] else []
  let chompHint :=
    match text.reverse with
    | [] => ['-']
    | last :: before =>
      if !isBreak last then ['-']
      else if before.head?.all isBreak then ['+']
      else []
  '|' :: indentHint ++ chompHint

/-- The lines of a literal text, each indented unless it is empty. -/
def literalLines (indent : Nat) (atStart : Bool) : List Char → List Char
  | [] => []
  | character :: rest =>
    if isBreak character then character :: literalLines indent true rest
    else
      (if atStart then List.replicate indent ' ' else []) ++
        character :: literalLines indent false rest

/-- A text as it stands after the mark of its field or item. -/
def text (indent : Nat) (value : String) : String :=
  let characters := value.toList
  match textStyle value with
  | .plain => value
  | .single => String.ofList (single indent characters)
  | .double => String.ofList (double characters)
  | .literal =>
    String.ofList (literalHeader characters ++ '\n' :: literalLines indent true characters)

/-- The name of a field. -/
def name (indent : Nat) (value : String) : String :=
  match textStyle value with
  | .literal => String.ofList (double value.toList)
  | _ => text indent value

/-- The text with a line break at its end, unless one of any kind is there. -/
def ended (value : String) : String :=
  if value.toList.getLast?.any isBreak then value else value ++ "\n"

/-- So many blanks. -/
def spaces (count : Nat) : String := String.ofList (List.replicate count ' ')

mutual

/-- A value after the mark of its field, in a record at an indentation. -/
def fieldValue (indent : Nat) : Json → String
  | .list [] => " []\n"
  | .list items => s!"\n{listItems indent (spaces indent) items}"
  | .object [] => " \x7b\x7d\n"
  | .object members => s!"\n{fields (indent + 2) (spaces (indent + 2)) members}"
  | value => ended s!" {scalar (indent + 2) value}"

/-- A value after the mark of its item, in a list at an indentation. -/
def itemValue (indent : Nat) : Json → String
  | .list [] => "[]\n"
  | .list items => listItems (indent + 2) "" items
  | .object [] => "\x7b\x7d\n"
  | .object members => fields (indent + 2) "" members
  | value => ended (scalar (indent + 2) value)

/-- A value that is no collection, at an indentation. -/
def scalar (indent : Nat) : Json → String
  | .null => "null"
  | .boolean value => if value then "true" else "false"
  | .integer value => toString value
  | .text value => text indent value
  | _ => ""

/-- The fields of a record, the first of them after given blanks. -/
def fields (indent : Nat) (start : String) : List (String × Json) → String
  | [] => ""
  | (key, value) :: rest =>
    s!"{start}{name indent key}:{fieldValue indent value}{fields indent (spaces indent) rest}"

/-- The items of a list, the first of them after given blanks. -/
def listItems (indent : Nat) (start : String) : List Json → String
  | [] => ""
  | value :: rest =>
    s!"{start}- {itemValue indent value}{listItems indent (spaces indent) rest}"

end

/-- The text of a document. -/
def document : Json → String
  | .object [] => "\x7b\x7d\n"
  | .object members => fields 0 "" members
  | .list [] => "[]\n"
  | .list items => listItems 0 "" items
  | value => ended (scalar 2 value)

end Printer
end Yaml
end TenantLoad
