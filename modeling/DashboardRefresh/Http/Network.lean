import DashboardRefresh.Http.Request
import DashboardRefresh.Text.Utf8

/-!
# Networks

A network decides how each request is answered. Sending a request over it gives the head of an
answer, or an error, and takes no time unless there is no answer at all: then it takes as long as
the request is willing to wait. The body is read from there on, and may not come whole.
-/

namespace DashboardRefresh

/-- How a request is answered. -/
inductive Answer where
  /-- A status, and a body that is said to be in no other encoding than UTF-8. -/
  | response (status : Nat) (body : List UInt8)
  /-- A status, and the connection is closed before the end of the body. -/
  | brokenOff (status : Nat)
  /-- A status, and the end of the body does not come for ever. -/
  | stalls (status : Nat)
  /-- The connection is closed without an answer. -/
  | closed
  /-- Nothing comes for ever. -/
  | hangs
  /-- There is no connection. -/
  | unreachable
  deriving DecidableEq

abbrev Network := Request → Answer

namespace Network

/-- The network without connections. -/
def unreachable : Network := fun _ => .unreachable

/-- A network given by the answers to URLs: the first of several for a URL counts, and a URL without
an answer is not found. There are no encrypted connections. -/
def ofTable (table : List (String × Answer)) : Network := fun r =>
  if r.url.scheme = "http" then (table.lookup r.url.textWithoutFragment).getD (.response 404 [])
  else .unreachable

/-- Nothing is waited for in vain. -/
def IsPrompt (network : Network) : Prop :=
  ∀ r, network r ≠ .hangs ∧ ∀ status, network r ≠ .stalls status

theorem isPrompt_unreachable : unreachable.IsPrompt :=
  fun _ => ⟨Answer.noConfusion, fun _ => Answer.noConfusion⟩

end Network

/-- The networks that keep nobody waiting. -/
abbrev PromptNetwork := {network : Network // network.IsPrompt}

/-- The network without connections. -/
def PromptNetwork.unreachable : PromptNetwork := ⟨.unreachable, Network.isPrompt_unreachable⟩

/-- Why there is no whole answer to a request. -/
inductive SendError where
  /-- Nothing can be sent to the URL. -/
  | badUrl (url : Url)
  | noAnswer (url : Url) (timedOut : Bool)
  /-- The body has not come whole. -/
  | brokenBody (timedOut : Bool)
  deriving DecidableEq

namespace SendError

def message : SendError → String
  | badUrl url => "builder error for url (" ++ url.text ++ ")"
  | noAnswer url _ => "error sending request for url (" ++ url.text ++ ")"
  | brokenBody _ => "error decoding response body"

def timedOut : SendError → Bool
  | badUrl _ => false
  | noAnswer _ timedOut | brokenBody timedOut => timedOut

end SendError

/-- What came of something that may use the network. -/
structure Attempt (α : Type) where
  result : α
  /-- The request, if it reached the network. -/
  sent : Option Request
  /-- The milliseconds until the result was there. -/
  waited : Nat
  /-- Whether the result depends on the network. -/
  connected : Bool

namespace Attempt

/-- A result without the network. -/
def offline {α : Type} (result : α) : Attempt α := ⟨result, none, 0, false⟩

def map {α β : Type} (f : α → β) (a : Attempt α) : Attempt β :=
  ⟨f a.result, a.sent, a.waited, a.connected⟩

end Attempt

/-- Whether a request line can hold a character of a host. Names of hosts may have some that it
cannot hold. -/
def isSendableHostChar (c : Char) : Bool := !(['"', '`', '\x7b', '\x7d'].contains c)

/-- Whether a request can be sent to a URL: its scheme is one of the web's, a request line can hold
it, and it is not too long. -/
def Url.isSendable (u : Url) : Bool :=
  (u.scheme == "http" || u.scheme == "https") &&
    u.host.all (fun host => host.toList.all isSendableHostChar) && u.text.length ≤ 65534

/-- The head of an answer, and what comes of its body. -/
structure Response where
  status : Nat
  body : Except SendError String
  /-- The milliseconds from the head to the end of the body, or until it is given up. -/
  lag : Nat

/-- Wait for the rest of an answer of which the head is there: its status and its text. -/
def Attempt.whole (a : Attempt (Except SendError Response)) :
    Attempt (Except SendError (Nat × String)) :=
  match a.result with
  | .error e => { a with result := .error e }
  | .ok response =>
    { a with
      result := response.body.map fun text => (response.status, text)
      waited := a.waited + response.lag }

namespace Request

/-- Send a request, for the head of the answer. -/
def send (network : Network) (r : Request) : Attempt (Except SendError Response) :=
  if r.url.isSendable then
    match network r with
    | .response status body => ⟨.ok ⟨status, .ok (Text.ofMarked body), 0⟩, some r, 0, true⟩
    | .brokenOff status => ⟨.ok ⟨status, .error (.brokenBody false), 0⟩, some r, 0, true⟩
    | .stalls status =>
      ⟨.ok ⟨status, .error (.brokenBody true), r.timeout.toMillis⟩, some r, 0, true⟩
    | .closed => ⟨.error (.noAnswer r.url false), some r, 0, true⟩
    | .hangs => ⟨.error (.noAnswer r.url true), some r, r.timeout.toMillis, true⟩
    | .unreachable => ⟨.error (.noAnswer r.url false), none, 0, true⟩
  else .offline (.error (.badUrl r.url))

/-- Send a request, for the status and the text of the whole answer. -/
def fetch (network : Network) (r : Request) : Attempt (Except SendError (Nat × String)) :=
  (r.send network).whole

end Request

end DashboardRefresh
