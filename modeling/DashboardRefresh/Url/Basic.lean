/-!
# URLs

Absolute URLs in their normal form. The path is a list of segments, except under schemes like
`mailto:`, whose paths are plain text.
-/

namespace DashboardRefresh

inductive UrlPath where
  | plain (text : String)
  | segments (parts : List String)
  deriving DecidableEq

def UrlPath.text : UrlPath → String
  | plain text => text
  | segments parts => String.join (parts.map ("/" ++ ·))

@[ext] structure Url where
  scheme : String
  /-- Empty if there is none. -/
  username : String
  password : Option String
  /-- Whether two slashes follow the scheme; then the host, which may be empty. -/
  host : Option String
  /-- The port, unless it is the usual one of the scheme. -/
  port : Option Nat
  path : UrlPath
  query : Option String
  fragment : Option String
  deriving DecidableEq

namespace Url

/-- The schemes of the web, with their usual ports. -/
def usualPort? (scheme : String) : Option Nat :=
  [("http", 80), ("https", 443), ("ws", 80), ("wss", 443), ("ftp", 21)].lookup scheme

/-- Whether the URLs of a scheme always have a path and treat backslashes as slashes. -/
def isSpecialScheme (scheme : String) : Bool := (usualPort? scheme).isSome || scheme == "file"

/-- Whether the URL names a host. -/
def hasHost (u : Url) : Bool :=
  match u.host with
  | some host => !host.isEmpty
  | none => false

def credentialsText (u : Url) : String :=
  match u.password with
  | some password => u.username ++ ":" ++ password ++ "@"
  | none => if u.username.isEmpty then "" else u.username ++ "@"

def authorityText (u : Url) : String :=
  match u.host with
  | some host =>
    let port := match u.port with
      | some port => ":" ++ toString port
      | none => ""
    "//" ++ u.credentialsText ++ host ++ port
  | none =>
    -- A path that begins with two slashes must not be taken for a host.
    match u.path with
    | .segments ("" :: _ :: _) => "/."
    | _ => ""

/-- The URL without its fragment. -/
def textWithoutFragment (u : Url) : String :=
  u.scheme ++ ":" ++ u.authorityText ++ u.path.text ++
    match u.query with
    | some query => "?" ++ query
    | none => ""

def text (u : Url) : String :=
  u.textWithoutFragment ++
    match u.fragment with
    | some fragment => "#" ++ fragment
    | none => ""

end Url

end DashboardRefresh
