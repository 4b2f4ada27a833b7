import DashboardRefresh.Url.Parser

/-!
# Appending segments

A URL with segments appended to its path, each encoded as a whole, so that nothing in it splits it
or ends the path. An empty segment at the end of the path makes room for the first of them. Dot
segments are passed over.
-/

namespace DashboardRefresh.Url

/-- Without tabs and line breaks, which no URL keeps. -/
def stripBreaks (cs : List Char) : List Char :=
  cs.filter fun c => c != '\t' && c != '\n' && c != '\r'

/-- A segment in its encoded form. -/
def encodeSegment (special : Bool) (segment : String) : List Char :=
  Percent.encode (Percent.keepSegment special) (stripBreaks segment.toList)

/-- Without an empty segment at the end, unless it is the only one. -/
def popEmpty (path : List String) : List String :=
  if 1 < path.length ∧ path.getLast? = some "" then path.dropLast else path

/-- A path under a scheme with one more segment. An empty segment that stands alone gives way to
it. -/
def pushSegment (scheme : String) (path : List String) (segment : String) : List String :=
  if segment = "." ∨ segment = ".." then path
  else
    let segment := encodeSegment (isSpecialScheme scheme) segment
    let path := addSegment (scheme == "file") true (if path = [""] then [] else path) segment
    if scheme = "file" then trimSegments path else path

/-- The URL with segments appended to its path, unless its path is plain text. -/
def append? (u : Url) (segments : List String) : Option Url :=
  match u.path with
  | .plain _ => none
  | .segments path =>
    some { u with path := .segments (segments.foldl (pushSegment u.scheme) (popEmpty path)) }

end DashboardRefresh.Url
