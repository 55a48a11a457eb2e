import TenantLoad.Url.Reader

/-!
# Endpoints relative to a base

The path of a base ends in a slash, and endpoints are found below it.  An
endpoint that is resolved against the base takes nothing but the path; one
that is built by appending segments keeps the base's query and fragment.
-/

namespace TenantLoad
namespace Url

/-- The URL with other segments in its path. -/
def withSegments (url : Url) (segments : List String) : Url := { url with path := .rooted segments }

/-- The URL whose path ends in a slash. -/
def asDirectory (url : Url) : Url :=
  if url.segments.getLast? = some "" then url else url.withSegments (url.segments ++ [""])

/-- The endpoint of the given segments relative to a directory; query and
fragment are not those of the directory. -/
def resolve (url : Url) (segments : List String) : Url :=
  { url.withSegments (url.segments.dropLast ++ segments) with query := none, fragment := none }

/-- The URL without the empty segment that its path ends in; the slash that
every path begins with stays. -/
def dropEmptyLast (url : Url) : Url :=
  if url.segments.getLast? = some "" ∧ 1 < url.segments.length then
    url.withSegments url.segments.dropLast
  else url

/-- Append a text as one segment.  A text of one or two dots is left out, and
characters that would divide or end the segment are encoded. -/
def appendSegment (url : Url) (text : String) : Url :=
  if text = "." ∨ text = ".." then url
  else
    let segments := if url.segments = [""] then [] else url.segments
    let reserved := if url.isSpecial then Percent.specialSegmentSet else Percent.segmentSet
    let segment := text.toList.filter fun character => !Reader.isDroppable character
    url.withSegments
      (Reader.addSegment (url.scheme == fileScheme) true segments
        (Percent.encode reserved segment))

/-- Append texts as segments. -/
def appendSegments (url : Url) (texts : List String) : Url := texts.foldl appendSegment url

end Url
end TenantLoad
