import TenantLoad.Url.Host

/-!
# URLs

A URL in its parts.  A few schemes are special: they always have a host and a
path, and a backslash counts as a slash.  The path is a list of segments, or
a plain text when nothing but a scheme stands before it and it does not begin
with a slash.
-/

namespace TenantLoad

/-- The path of a URL. -/
inductive Url.Path where
  /-- Segments, each after a slash. -/
  | rooted (segments : List String)
  /-- A text that is no list of segments. -/
  | plain (text : String)
  deriving Repr, DecidableEq

/-- A URL. -/
structure Url where
  scheme : String
  username : String := ""
  password : String := ""
  host : Option Url.Host := none
  port : Option Nat := none
  path : Url.Path
  query : Option String := none
  fragment : Option String := none
  deriving Repr, DecidableEq

namespace Url

/-- The scheme of local files. -/
def fileScheme : String := "file"

/-- The ports that special schemes have unless others are given. -/
def defaultPorts : List (String × Nat) :=
  [("http", 80), ("https", 443), ("ws", 80), ("wss", 443), ("ftp", 21)]

/-- The port that a scheme has unless another is given. -/
def defaultPort? (scheme : String) : Option Nat := defaultPorts.lookup scheme

/-- Whether a scheme is special. -/
def isSpecialScheme (scheme : String) : Bool :=
  scheme == fileScheme || (defaultPort? scheme).isSome

/-- Whether the scheme is special. -/
def isSpecial (url : Url) : Bool := isSpecialScheme url.scheme

/-- Whether endpoints can be found relative to a URL. -/
def isBase (url : Url) : Bool :=
  match url.path with
  | .rooted _ => true
  | .plain _ => false

/-- The segments of the path. -/
def segments (url : Url) : List String :=
  match url.path with
  | .rooted segments => segments
  | .plain _ => []

/-- The user's name and password before the host. -/
def userText (url : Url) : String :=
  if url.username = "" ∧ url.password = "" then ""
  else if url.password = "" then url.username ++ "@"
  else url.username ++ ":" ++ url.password ++ "@"

/-- Segments, each after a slash. -/
def segmentsText (segments : List String) : String :=
  String.join (segments.map fun segment => "/" ++ segment)

/-- The path as text. -/
def pathText (url : Url) : String :=
  match url.path with
  | .rooted segments => segmentsText segments
  | .plain text => text

/-- What stands between the scheme and the path: two slashes and the host.
A path that itself begins with two slashes is kept apart by a dot. -/
def authorityText (url : Url) : String :=
  match url.host with
  | some host =>
    "//" ++ url.userText ++ host.text ++
      (match url.port with
        | some port => ":" ++ toString port
        | none => "")
  | none =>
    if url.scheme = fileScheme then "//"
    else if url.isBase ∧ url.segments.length > 1 ∧ url.segments.head? = some "" then "/."
    else ""

/-- The text of a URL. -/
def text (url : Url) : String :=
  url.scheme ++ ":" ++ url.authorityText ++ url.pathText ++
    (match url.query with
      | some query => "?" ++ query
      | none => "") ++
    (match url.fragment with
      | some fragment => "#" ++ fragment
      | none => "")

end Url
end TenantLoad
