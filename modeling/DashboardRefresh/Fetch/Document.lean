import DashboardRefresh.Fetch.Error
import DashboardRefresh.Http.Network

/-!
# Fetching documents

A document is fetched by one request. Only the status 200 counts; the error for any other one quotes
the beginning of the answer.
-/

namespace DashboardRefresh

/-- The longest beginning of a text that has at most `max` bytes in UTF-8. -/
def prefixWithin (max : Nat) : List Char → List Char
  | [] => []
  | c :: cs => if c.utf8Size ≤ max then c :: prefixWithin (max - c.utf8Size) cs else []

/-- The bytes of a text in UTF-8. -/
def byteLength : List Char → Nat
  | [] => 0
  | c :: cs => c.utf8Size + byteLength cs

/-- A text without blanks at its ends, cut after `max` bytes. The cut leaves no blanks at the end,
and is marked. -/
def excerpt (max : Nat) (cs : List Char) : List Char :=
  let trimmed := Text.trimChars cs
  if byteLength trimmed ≤ max then trimmed
  else Text.trimEndChars (prefixWithin max trimmed) ++ ['.', '.', '.']

/-- How many bytes of an answer an error quotes. -/
def excerptLimit : Nat := 256

namespace FetchError

/-- The error of a request that cannot be made. -/
def ofBuild (e : BuildError) : FetchError := request e.urlText e.message

/-- The error of a request without an answer. -/
def ofSend (url : Url) (e : SendError) : FetchError := request url.text e.message

end FetchError

/-- Read the answer to a request for a document. What the reader of its text finds wrong with it is
not told. -/
def readAnswer {α : Type} (url : Url) (read : String → Option α) :
    Except SendError (Nat × String) → Except FetchError α
  | .error e => .error (.ofSend url e)
  | .ok (status, body) =>
    if status ≠ 200 then
      .error (.status status url.text (String.ofList (excerpt excerptLimit body.toList)))
    else
      match read body with
      | some a => .ok a
      | none => .error (.decode url.text "not the document that was expected")

/-- Fetch a document and read it. -/
def fetchDocument {α : Type} (network : Network) (read : String → Option α) :
    Except BuildError Request → Attempt (Except FetchError α)
  | .error e => .offline (.error (.ofBuild e))
  | .ok r => (r.fetch network).map (readAnswer r.url read)

end DashboardRefresh
