import EdgeGateway.Text.Ascii
import EdgeGateway.Text.Pieces
import EdgeGateway.Unicode.Lowercase

/-!
# Resources and versions in paths

A segment such as `v2` or `V1.3` names an API version.  The resource of a path
is made of its first two other segments, in lower case, so that all versions of
a resource share one key.
-/

namespace EdgeGateway.Version

def isVersionChars : List Char → Bool
  | [] => false
  | char :: rest =>
      (char = 'v' || char = 'V') && !rest.isEmpty &&
        (Text.splitAtEvery '.' rest).all fun group =>
          !group.isEmpty && group.all Text.isAsciiDigit

def isVersionSegment (segment : String) : Bool :=
  isVersionChars segment.toList

/-- The first two segments that are neither empty nor versions, up to a query
or a fragment. -/
def resourceSegments (path : String) : List (List Char) :=
  let chars := path.toList.takeWhile fun char => char ≠ '?' && char ≠ '#'
  ((Text.splitAtEvery '/' chars).filter fun segment =>
    !segment.isEmpty && !isVersionChars segment).take 2

def normalizeResource? (path : String) : Option String :=
  match resourceSegments path with
  | [] => none
  | segments =>
      some <| "/" ++ Text.join "/" (segments.map fun segment =>
        Unicode.lowercase (String.ofList segment))

/-- Puts a version in the place of the first version segment. -/
def replaceFirstVersion (version : List Char) :
    List (List Char) → List (List Char)
  | [] => []
  | segment :: segments =>
      if isVersionChars segment then version :: segments
      else segment :: replaceFirstVersion version segments

def pathWithVersion (path version : String) : String :=
  String.ofList <| Text.glue ['/'] <|
    replaceFirstVersion version.toList (Text.splitAtEvery '/' path.toList)

end EdgeGateway.Version
