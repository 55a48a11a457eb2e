import TenantLoad.Url.Basic

/-!
# Reading URLs

Blanks around a URL and line breaks within it are dropped.  A text without a
scheme is no URL, since there is nothing that it could be relative to.
-/

namespace TenantLoad
namespace Url

namespace Reader

/-- Whether a character may be dropped wherever it stands: a tab or a line
break. -/
def isDroppable (character : Char) : Bool := ['\t', '\n', '\r'].contains character

/-- The text without blanks and control characters around it, and without
tabs and line breaks within it. -/
def clean (text : String) : List Char :=
  let isOuter (character : Char) : Bool := character.toNat ≤ 0x20
  let inner := (text.toList.dropWhile isOuter).reverse.dropWhile isOuter
  inner.reverse.filter fun character => !isDroppable character

/-- Whether a character may follow the first letter of a scheme. -/
def isSchemeChar (character : Char) : Bool :=
  character.isAlphanum || ['+', '-', '.'].contains character

/-- The scheme that a text begins with, in lower case, and what follows its
colon. -/
def splitScheme (input : List Char) : Option (String × List Char) :=
  let (scheme, rest) := input.span isSchemeChar
  match scheme, rest with
  | first :: _, ':' :: rest =>
    if first.isAlpha then some (String.ofList (scheme.map Char.toLower), rest) else none
  | _, _ => none

/-- Whether a character ends a segment of a path. -/
def isSlash (special : Bool) (character : Char) : Bool :=
  character == '/' || (special && character == '\\')

/-- Whether a character ends the path. -/
def endsPath (character : Char) : Bool := character == '?' || character == '#'

/-- Whether a segment stands for the path itself. -/
def isSingleDot (segment : List Char) : Bool :=
  [".", "%2e"].contains (String.ofList (segment.map Char.toLower))

/-- Whether a segment stands for the path above. -/
def isDoubleDot (segment : List Char) : Bool :=
  ["..", "%2e.", ".%2e", "%2e%2e"].contains (String.ofList (segment.map Char.toLower))

/-- Whether a segment is the letter of a drive. -/
def isDrive (segment : List Char) : Bool :=
  match segment with
  | [letter, mark] => letter.isAlpha && (mark == ':' || mark == '|')
  | _ => false

/-- The path above a path; the drive of a file stays. -/
def shorten (isFile : Bool) (segments : List String) : List String :=
  match segments with
  | [only] => if isFile && isDrive only.toList then segments else []
  | _ => segments.dropLast

/-- The segments after another one, in its encoded form. -/
def addSegment (isFile isLast : Bool) (segments : List String) (segment : List Char) :
    List String :=
  let last := if isLast then [""] else []
  if isDoubleDot segment then shorten isFile segments ++ last
  else if isSingleDot segment then segments ++ last
  else
    let segment :=
      if isFile && segments.isEmpty && isDrive segment then segment.take 1 ++ [':'] else segment
    segments ++ [String.ofList segment]

/-- Split a text at its slashes. -/
def splitSegments (special : Bool) (input : List Char) : List (List Char) :=
  input.splitOnP (isSlash special)

/-- The segments of a path whose first slash has been read. -/
def readSegments (special isFile : Bool) (input : List Char) : List String :=
  let parts := (splitSegments special input).map (Percent.encode Percent.pathSet)
  let segments := parts.dropLast.foldl (addSegment isFile false) []
  match parts.getLast? with
  | some last => addSegment isFile true segments last
  | none => segments

/-- The path after a host. -/
def readPath (special : Bool) (input : List Char) : List String :=
  match input with
  | [] => if special then [""] else []
  | first :: rest =>
    readSegments special false (if isSlash special first then rest else input)

/-- The query and the fragment that follow a path. -/
def readTail (special : Bool) (input : List Char) : Option String × Option String :=
  let fragmentOf (input : List Char) :=
    String.ofList (Percent.encode Percent.fragmentSet input)
  match input with
  | '?' :: rest =>
    let (query, rest) := rest.span (· != '#')
    let reserved := if special then Percent.specialQuerySet else Percent.querySet
    let query := String.ofList (Percent.encode reserved query)
    match rest with
    | '#' :: fragment => (some query, some (fragmentOf fragment))
    | _ => (some query, none)
  | '#' :: fragment => (none, some (fragmentOf fragment))
  | _ => (none, none)

/-- The user's name and password, encoded. -/
def readUser (input : List Char) : String × String :=
  let (name, rest) := input.span (· != ':')
  let encode (text : List Char) := String.ofList (Percent.encode Percent.userSet text)
  (encode name, encode (rest.drop 1))

/-- Split an authority at its last at sign. -/
def splitUser (input : List Char) : Option (List Char × List Char) :=
  let (host, rest) := input.reverse.span (· != '@')
  match rest with
  | '@' :: user => some (user.reverse, host.reverse)
  | _ => none

/-- Split a host and port at the first colon outside brackets. -/
def splitPort (inBrackets : Bool) : List Char → List Char × List Char
  | [] => ([], [])
  | character :: rest =>
    if character = ':' ∧ ¬inBrackets then ([], character :: rest)
    else
      let inBrackets := if character = '[' then true else if character = ']' then false else inBrackets
      let (host, port) := splitPort inBrackets rest
      (character :: host, port)

/-- The port of a text that begins with a colon, and what follows it; a
backslash ends it too. -/
def readPort (scheme : String) (input : List Char) :
    Except Fault (Option Nat × List Char) :=
  match input with
  | ':' :: rest =>
    let (digits, rest) := rest.span Char.isDigit
    let value := (Host.digitsValue? 10 digits).getD 0
    if 65535 < value then .error .port
    else if rest.isEmpty || rest.head? = some '\\' then
      .ok (if digits.isEmpty || defaultPort? scheme = some value then none else some value, rest)
    else .error .port
  | _ => .ok (none, input)

/-- The host of a scheme; one that is not special may have none. -/
def readHost (special : Bool) (input : List Char) : Except Fault (Option Host) :=
  if special then
    if input.isEmpty then .error .emptyHost else (Host.parseSpecial input).map some
  else if input.isEmpty then .ok none
  else (Host.parseOther input).map some

/-- A URL after its scheme and two slashes. -/
def readAuthority (scheme : String) (input : List Char) : Except Fault Url := do
  let special := isSpecialScheme scheme
  let (authority, after) := input.span fun character =>
    !(isSlash special character || endsPath character)
  let (user, hostAndPort) := (splitUser authority).getD ([], authority)
  if (splitUser authority).isSome ∧ user.isEmpty ∧ hostAndPort.isEmpty ∧ ¬after.isEmpty then
    throw .emptyHost
  let (username, password) := readUser user
  let (hostText, portText) := splitPort false hostAndPort
  let host ← readHost special hostText
  if host.isNone ∧ (portText.head? = some ':' ∨ username ≠ "" ∨ password ≠ "") then
    throw .emptyHost
  let (port, rest) ← readPort scheme portText
  let (pathText, tail) := (rest ++ after).span fun character => !endsPath character
  let (query, fragment) := readTail special tail
  pure
    { scheme, username, password
      host := some (host.getD (.named ""))
      port, path := .rooted (readPath special pathText), query, fragment }

/-- The segments without the empty ones that they begin with. -/
def dropEmpty : List String → List String
  | "" :: second :: rest => dropEmpty (second :: rest)
  | segments => segments

/-- A URL of a local file, after its scheme. -/
def readFile (input : List Char) : Except Fault Url := do
  let finish (host : Option Host) (input : List Char) : Url :=
    let (pathText, tail) := input.span fun character => !endsPath character
    let (query, fragment) := readTail true tail
    let pathText :=
      match pathText with
      | first :: rest => if isSlash true first then rest else pathText
      | [] => []
    { scheme := fileScheme, host
      path := .rooted (dropEmpty (readSegments true true pathText)), query, fragment }
  match input with
  | first :: second :: rest =>
    if isSlash true first ∧ isSlash true second then
      let (hostText, after) := rest.span fun character =>
        !(isSlash true character || endsPath character)
      if hostText.isEmpty then pure (finish none after)
      else if isDrive hostText then pure (finish none rest)
      else
        let host ← Host.parseSpecial hostText
        pure (finish (if host = .named "localhost" then none else some host) after)
    else pure (finish none input)
  | _ => pure (finish none input)

/-- A URL without a host, after its scheme. -/
def readLocal (scheme : String) (input : List Char) : Url :=
  let (pathText, tail) := input.span fun character => !endsPath character
  let (query, fragment) := readTail false tail
  let path : Path :=
    match pathText with
    | '/' :: rest => .rooted (readSegments false false rest)
    | _ => .plain (String.ofList (Percent.encode Percent.isControl pathText))
  { scheme, path, query, fragment }

end Reader

/-- Read a URL. -/
def parse (text : String) : Except Fault Url :=
  match Reader.splitScheme (Reader.clean text) with
  | none => .error .noScheme
  | some (scheme, rest) =>
    if scheme = fileScheme then Reader.readFile rest
    else if isSpecialScheme scheme then
      Reader.readAuthority scheme (rest.dropWhile (Reader.isSlash true))
    else
      match rest with
      | '/' :: '/' :: rest => Reader.readAuthority scheme rest
      | _ => .ok (Reader.readLocal scheme rest)

end Url
end TenantLoad
