import DashboardRefresh.Url.Basic
import DashboardRefresh.Url.Host

/-!
# Reading URLs

A text is read as an absolute URL the way browsers do: blanks at its ends, tabs and line breaks are
dropped, a web scheme may be followed by any number of slashes of either kind, the host is brought
to its normal form, dot segments of the path are carried out, and all other characters that a part
may not hold are percent-encoded.
-/

namespace DashboardRefresh.Url

/-- What is left of a text to read as a URL: no control characters and spaces at its ends, no tabs
and line breaks anywhere. -/
def clean (cs : List Char) : List Char :=
  let isEdge (c : Char) : Bool := c.toNat ≤ 0x20
  let trimmed := ((cs.dropWhile isEdge).reverse.dropWhile isEdge).reverse
  trimmed.filter fun c => c != '\t' && c != '\n' && c != '\r'

def isSchemeChar (c : Char) : Bool := c.isAlphanum || c == '+' || c == '-' || c == '.'

/-- The scheme, in lower case, and what follows its colon. -/
def cutScheme? (cs : List Char) : Option (String × List Char) :=
  let (scheme, rest) := Reader.span isSchemeChar cs
  match scheme, rest with
  | c :: _, ':' :: rest =>
    if c.isAlpha then some (String.ofList (scheme.map Char.toLower), rest) else none
  | _, _ => none

def isSlash (special : Bool) (c : Char) : Bool := c == '/' || (special && c == '\\')

/-- Whether a character ends the authority. -/
def endsAuthority (special : Bool) (c : Char) : Bool :=
  isSlash special c || c == '?' || c == '#'

/-! ## Paths -/

def isSingleDot (segment : List Char) : Bool :=
  segment == ['.'] || segment.map Char.toLower == ['%', '2', 'e']

def isDoubleDot (segment : List Char) : Bool :=
  let s := segment.map Char.toLower
  s == ['.', '.'] || s == ['.', '%', '2', 'e'] || s == ['%', '2', 'e', '.'] ||
    s == ['%', '2', 'e', '%', '2', 'e']

/-- Whether a segment names a drive: a letter and a colon, or a bar in its place. -/
def isDrive : List Char → Bool
  | [letter, sign] => letter.isAlpha && (sign == ':' || sign == '|')
  | _ => false

/-- Whether a segment stays where two dots would remove it: it is a drive, alone or before a
backslash. -/
def staysPut (segment : String) : Bool :=
  isDrive (segment.toList.take 2) && segment.toList[2]?.all (· == '\\')

/-- A path without its last segment, unless that stays put. -/
def parent (path : List String) : List String :=
  if path.getLast?.any staysPut then path else path.dropLast

/-- A drive at the end of the path of a file is written with a colon. -/
def normalDrive (segment : List Char) : List Char :=
  if isDrive segment then segment.take 1 ++ [':'] else segment

/-- Go on to one more segment of a path, in its encoded form. The last segment stays as an empty one
if it is a dot segment. -/
def addSegment (file last : Bool) (path : List String) (segment : List Char) : List String :=
  if isDoubleDot segment then parent path ++ (if last then [""] else [])
  else if isSingleDot segment then path ++ (if last then [""] else [])
  else
    path ++ [String.ofList (if file && last && path.isEmpty then normalDrive segment else segment)]

/-- The pieces of a path between its slashes. -/
def splitPath (special : Bool) : List Char → List (List Char)
  | [] => [[]]
  | c :: cs =>
    if isSlash special c then [] :: splitPath special cs
    else match splitPath special cs with
      | [] => [[c]]
      | piece :: pieces => (c :: piece) :: pieces

/-- Carry out the segments of a path one after the other. -/
def runSegments (file : Bool) (path : List String) : List (List Char) → List String
  | [] => path
  | [segment] => addSegment file true path segment
  | segment :: rest => runSegments file (addSegment file false path segment) rest

/-- The path of a file has no empty segments at its beginning. -/
def trimSegments (path : List String) : List String :=
  match path.dropWhile (·.isEmpty) with
  | [] => [""]
  | path => path

/-- The segments of a path under a scheme, given without its first slash, with those that are empty
at its beginning. -/
def allSegments (scheme : String) (cs : List Char) : List String :=
  let pieces := splitPath (isSpecialScheme scheme) cs
  runSegments (scheme == "file") [] (pieces.map (Percent.encode Percent.keepPath))

/-- The segments of a path under a scheme, given without its first slash. -/
def segmentsOf (scheme : String) (cs : List Char) : List String :=
  let path := allSegments scheme cs
  if scheme = "file" then trimSegments path else path

/-- The path that follows an authority. -/
def pathAfterAuthority (scheme : String) (cs : List Char) : UrlPath :=
  let special := isSpecialScheme scheme
  match cs with
  | [] => .segments (if special then [""] else [])
  | c :: rest => .segments (segmentsOf scheme (if isSlash special c then rest else cs))

/-! ## Authorities -/

/-- The user name and the password before the last at sign, and what follows it. An at sign without
a name before it needs a host if anything follows. -/
def userinfo (authority : List Char) (followed : Bool) :
    Except UrlError (String × Option String × List Char) :=
  let reversed := authority.reverse
  let host := (reversed.takeWhile (· ≠ '@')).reverse
  match reversed.dropWhile (· ≠ '@') with
  | [] => .ok ("", none, authority)
  | _ :: info =>
    let info := info.reverse
    if info.isEmpty ∧ host.isEmpty ∧ followed then .error .emptyHost
    else
      let encode (cs : List Char) : String := String.ofList (Percent.encode Percent.keepUserinfo cs)
      match Text.cutChars? ':' info with
      | some (name, password) =>
        .ok (encode name, if password.isEmpty then none else some (encode password), host)
      | none => .ok (encode info, none, host)

/-- The host and what follows it: a colon and a port, or nothing. -/
def cutHost : (bracket : Bool) → List Char → List Char × List Char
  | _, [] => ([], [])
  | bracket, c :: cs =>
    if c = ':' ∧ ¬bracket then ([], c :: cs)
    else
      let r := cutHost (if c = '[' then true else if c = ']' then false else bracket) cs
      (c :: r.1, r.2)

/-- The port after a host, unless it is the usual one, and what follows it, which is nothing or a
path that begins with a backslash. -/
def portOf (scheme : String) (cs : List Char) : Except UrlError (Option Nat × List Char) :=
  match cs with
  | ':' :: cs =>
    let (digits, rest) := Reader.span Char.isDigit cs
    let port := Text.decimalValue digits
    if 65536 ≤ port ∨ !rest.head?.all (· == '\\') then .error .badPort
    else if digits.isEmpty ∨ usualPort? scheme = some port then .ok (none, rest)
    else .ok (some port, rest)
  | cs => .ok (none, cs)

/-- Split a text where its authority ends. -/
def cutAuthority (special : Bool) (cs : List Char) : List Char × List Char :=
  Reader.span (fun c => !endsAuthority special c) cs

/-- A URL after the slashes that come before its authority, without query and fragment, which may
follow. -/
def afterSlashes (scheme : String) (cs : List Char) (followed : Bool) : Except UrlError Url := do
  let special := isSpecialScheme scheme
  let (authority, rest) := cutAuthority special cs
  let (username, password, place) ← userinfo authority (followed || !rest.isEmpty)
  let (hostText, portText) := cutHost false place
  if hostText.isEmpty ∧ (special ∨ ¬portText.isEmpty) then .error .emptyHost
  else
    let host ← if special then Host.parse hostText else Host.parseOpaque hostText
    let (port, path) ← portOf scheme portText
    if host.isEmpty ∧ (¬username.isEmpty ∨ password.isSome) then .error .emptyHost
    else
      return ⟨scheme, username, password, some (String.ofList host), port,
        pathAfterAuthority scheme (path ++ rest), none, none⟩

/-! ## Files -/

/-- The URL of a file, without query and fragment. A drive is no host but the beginning of a path,
and a path that begins with a drive has no host. -/
def ofFile (cs : List Char) : Except UrlError Url := do
  let make (host : String) (path : List Char) : Url :=
    ⟨"file", "", none, some host, none, pathAfterAuthority "file" path, none, none⟩
  match cs with
  | a :: b :: rest =>
    if isSlash true a && isSlash true b then
      let (hostText, path) := cutAuthority true rest
      if hostText.isEmpty then return make "" path
      else if isDrive hostText then return make "" rest
      else
        let host ← Host.parse hostText
        let onDrive := (allSegments "file" (path.drop 1)).head?.any (isDrive ·.toList)
        let isLocal := onDrive || host == "localhost".toList
        return make (if isLocal then "" else String.ofList host) path
    else return make "" cs
  | cs => return make "" cs

/-! ## The whole -/

/-- Cut a query and a fragment off the end of a text. -/
def cutTail (cs : List Char) : List Char × Option (List Char) × Option (List Char) :=
  let (front, fragment) := match Text.cutChars? '#' cs with
    | some (front, fragment) => (front, some fragment)
    | none => (cs, none)
  match Text.cutChars? '?' front with
  | some (front, query) => (front, some query, fragment)
  | none => (front, none, fragment)

/-- A URL after its scheme, without query and fragment, which may follow. -/
def afterScheme (scheme : String) (cs : List Char) (followed : Bool) : Except UrlError Url :=
  if scheme = "file" then ofFile cs
  else if isSpecialScheme scheme then afterSlashes scheme (cs.dropWhile (isSlash true)) followed
  else match cs with
    | '/' :: '/' :: rest => afterSlashes scheme rest followed
    | '/' :: rest =>
      .ok ⟨scheme, "", none, none, none, .segments (segmentsOf scheme rest), none, none⟩
    | cs =>
      .ok ⟨scheme, "", none, none, none,
        .plain (String.ofList (Percent.encode Percent.keepOpaque cs)), none, none⟩

/-- Read an absolute URL. -/
def parse (text : String) : Except UrlError Url := do
  match cutScheme? (clean text.toList) with
  | none => .error .relative
  | some (scheme, rest) =>
    let (front, query, fragment) := cutTail rest
    let u ← afterScheme scheme front (query.isSome || fragment.isSome)
    let encode (keep : Char → Bool) (cs : List Char) : String :=
      String.ofList (Percent.encode keep cs)
    return { u with
      query := query.map (encode (Percent.keepQuery (isSpecialScheme scheme)))
      fragment := fragment.map (encode Percent.keepFragment) }

end DashboardRefresh.Url
