import DashboardRefresh.Json.Printer
import DashboardRefresh.Text.Base64
import DashboardRefresh.Text.Whitespace
import DashboardRefresh.Time.Duration
import DashboardRefresh.Url.Parser

/-!
# Requests

A request is made for a URL that has a host, and then given its headers and its body. What cannot be
written as a URL or as a header spoils it. A user name and a password in the URL are moved to a
header.
-/

namespace DashboardRefresh

inductive Method where
  | get
  | post
  deriving DecidableEq

def Method.name : Method → String
  | get => "GET"
  | post => "POST"

/-- Why a request cannot be made. -/
inductive BuildError where
  /-- Not a URL, or not a header. -/
  | malformed
  /-- A URL that leads to no host. -/
  | noHost (url : Url)
  deriving DecidableEq

namespace BuildError

def message : BuildError → String
  | malformed => "builder error"
  | noHost url => "builder error for url (" ++ url.text ++ ")"

/-- The URL of the request, as far as it is known. -/
def urlText : BuildError → String
  | malformed => ""
  | noHost url => url.text

end BuildError

structure Request where
  method : Method
  url : Url
  /-- The headers in the order in which they were given, their names in lower case. -/
  headers : List (String × String)
  body : Option String
  /-- How long to wait for the answer. -/
  timeout : Duration
  /-- Whether a certificate that is not valid is accepted. -/
  allowInsecure : Bool
  deriving DecidableEq

/-! ## Headers -/

namespace Header

def isNameChar (c : Char) : Bool :=
  c.isAlphanum ||
    ['!', '#', '$', '%', '&', '\'', '*', '+', '-', '.', '^', '_', '`', '|', '~'].contains c

def isName (name : String) : Bool := !name.isEmpty && name.toList.all isNameChar

def isValueChar (c : Char) : Bool := c == '\t' || (0x20 ≤ c.toNat && c.toNat ≠ 0x7F)

/-- A value holds no control character but the tab. -/
def isValue (value : String) : Bool := value.toList.all isValueChar

/-- A value that is ASCII besides. -/
def isAsciiValue (value : String) : Bool :=
  value.toList.all fun c => isValueChar c && c.toNat < 0x80

/-- The value of the header that names a user. -/
def basic (username : String) (password : String) : String :=
  "Basic " ++ String.ofList (Base64.encode (username ++ ":" ++ password).toUTF8.toList)

end Header

namespace Request

/-- The user name and the password in a URL, unless it has neither or they are no text. -/
def credentialsOf? (url : Url) : Option (String × String) := do
  let username ← Percent.decodeText? url.username.toList
  let password := url.password.bind fun p => Percent.decodeText? p.toList
  if username.isEmpty ∧ password.isNone then none else some (username, password.getD "")

/-- A request for a URL. -/
def ofUrl (method : Method) (url : Url) (timeout : Duration) : Except BuildError Request :=
  if !url.hasHost then .error (.noHost url)
  else
    match credentialsOf? url with
    | some (username, password) =>
      .ok ⟨method, { url with username := "", password := none },
        [("authorization", Header.basic username password)], none, timeout, false⟩
    | none => .ok ⟨method, url, [], none, timeout, false⟩

/-- A request for a URL that is given as a text. -/
def ofText (method : Method) (url : String) (timeout : Duration) : Except BuildError Request :=
  match Url.parse url with
  | .ok url => ofUrl method url timeout
  | .error _ => .error .malformed

/-- The request with one more header. -/
def addHeader (r : Request) (name value : String) : Except BuildError Request :=
  if Header.isName name ∧ Header.isValue value then
    .ok { r with headers := r.headers ++ [(name.map Char.toLower, value)] }
  else .error .malformed

/-- The request with one more header, whose value has to be ASCII. -/
def addAsciiHeader (r : Request) (name value : String) : Except BuildError Request :=
  if Header.isAsciiValue value then r.addHeader name value else .error .malformed

/-- The request in the name of a user. -/
def withCredentials (r : Request) (username password : String) : Request :=
  { r with headers := r.headers ++ [("authorization", Header.basic username password)] }

/-- The request with a JSON document as its body. -/
def withJson (r : Request) (document : Json) : Request :=
  { r with
    headers := r.headers ++ [("content-type", "application/json")]
    body := some document.compact }

/-- How the program calls itself in its requests. -/
def userAgent : String := "feedboard/0.1.0"

/-- The headers as they are sent: their values without blanks at the ends, and a user agent and what
is accepted unless the request says so itself. -/
def sentHeaders (r : Request) : List (String × String) :=
  let usual := [("accept", "*/*"), ("user-agent", userAgent)].filter fun h =>
    (r.headers.lookup h.1).isNone
  r.headers.map (fun h => (h.1, Text.trim h.2)) ++ usual

end Request

end DashboardRefresh
