import TenantLoad.Yaml.Scalar.Gap

/-!
# Quoted scalars

Between single quotes a quote is written twice.  Between double quotes a
backslash begins an escape, which may also hide a line break.  The words of
both are joined over their gaps.
-/

namespace TenantLoad
namespace Yaml
namespace Quoted

/-- The quotes that a scalar may stand in. -/
inductive Quote where
  | single
  | double
  deriving Repr, DecidableEq

/-- The character of a quote. -/
def Quote.mark : Quote → Char
  | .single => '\''
  | .double => '"'

/-- The characters that a backslash and a letter stand for. -/
def letterEscapes : List (Char × Char) :=
  [('0', '\x00'), ('a', '\x07'), ('b', '\x08'), ('t', '\t'), ('\t', '\t'), ('n', '\n'),
    ('v', '\x0b'), ('f', '\x0c'), ('r', '\r'), ('e', '\x1b'), (' ', ' '), ('"', '"'), ('/', '/'),
    ('\\', '\\'), ('N', '\u0085'), ('_', '\u00a0'), ('L', '\u2028'), ('P', '\u2029')]

/-- The number of digits of the escapes that give the code of a character. -/
def codeEscapes : List (Char × Nat) := [('x', 2), ('u', 4), ('U', 8)]

/-- The value of a hexadecimal digit. -/
def digitValue? (digit : Char) : Option Nat :=
  if digit.isDigit then some (digit.toNat - '0'.toNat)
  else if 'a' ≤ digit ∧ digit ≤ 'f' then some (digit.toNat - 'a'.toNat + 10)
  else if 'A' ≤ digit ∧ digit ≤ 'F' then some (digit.toNat - 'A'.toNat + 10)
  else none

/-- The number that hexadecimal digits are. -/
def codeValue? (digits : List Char) : Option Nat :=
  digits.foldlM (fun value digit => (digitValue? digit).map (16 * value + ·)) 0

/-- The character of a code. -/
def character? (code : Nat) : Option Char :=
  if code.isValidChar then some (Char.ofNat code) else none

/-- The character of an escape and its length without the backslash. -/
def readEscape? (rest : List Char) : Option (Char × Nat) :=
  match rest with
  | [] => none
  | letter :: rest =>
    match letterEscapes.lookup letter, codeEscapes.lookup letter with
    | some character, _ => some (character, 1)
    | none, some count =>
      let digits := rest.take count
      if digits.length = count then
        ((codeValue? digits).bind character?).map fun character => (character, count + 1)
      else
        none
    | none, none => none

/-- Why a word ends. -/
inductive Stop where
  | gap
  | quote
  /-- A line break that a backslash hides. -/
  | hidden
  deriving Repr, DecidableEq

/-- The word that stands here and why it ends. -/
def readWord? (quote : Quote) : (fuel : Nat) → Cursor → Option (List Char × Stop × Cursor)
  | 0, _ => none
  | fuel + 1, cursor =>
    let continueWith (character : Char) (length : Nat) :=
      (readWord? quote fuel (cursor.skip length)).map fun (word, stop, cursor) =>
        (character :: word, stop, cursor)
    match cursor.rest with
    | [] => some ([], .gap, cursor)
    | first :: rest =>
      if isGap first then some ([], .gap, cursor)
      else if first = quote.mark then
        if quote = .single ∧ rest.head? = some '\'' then continueWith '\'' 2
        else some ([], .quote, cursor.skip 1)
      else if quote = .double ∧ first = '\\' then
        if rest.head?.any isBreak then some ([], .hidden, (cursor.skip 1).nextLine)
        else
          match readEscape? rest with
          | some (character, length) => continueWith character (length + 1)
          | none => none
      else continueWith first 1

/-- The gap after a word; a hidden line break leaves only the breaks that
follow it. -/
def readGap? (stop : Stop) (cursor : Cursor) : Option (List Char × Cursor) :=
  match stop with
  | .hidden => Gap.readBreaks? 0 cursor.rest cursor.column cursor.line
  | _ => (Gap.read? 0 cursor).map fun (gap, cursor) => (gap.folded, cursor)

/-- The words up to the closing quote; the document must not end before it. -/
def readWords? (quote : Quote) : (fuel : Nat) → Cursor → Option (List Char × Cursor)
  | 0, _ => none
  | fuel + 1, cursor => do
    if cursor.isAtBoundary || cursor.rest.isEmpty then none
    let (word, stop, cursor) ← readWord? quote (cursor.rest.length + 1) cursor
    if stop = .quote then return (word, cursor)
    if stop = .hidden ∧ cursor.rest.head? = some quote.mark then return (word, cursor.skip 1)
    let (gap, cursor) ← readGap? stop cursor
    let (more, cursor) ← readWords? quote fuel cursor
    return (word ++ gap ++ more, cursor)

/-- The scalar whose opening quote stands here. -/
def read? (quote : Quote) (cursor : Cursor) : Option (List Char × Cursor) :=
  let cursor := cursor.skip 1
  readWords? quote (cursor.rest.length + 1) cursor

end Quoted
end Yaml
end TenantLoad
