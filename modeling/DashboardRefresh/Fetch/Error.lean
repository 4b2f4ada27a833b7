/-!
# Fetch errors

What can go wrong while a widget fetches its data. Two of the causes speak of a whole update:
nothing was retrieved, or some of it is missing. The others speak of a single request.
-/

namespace DashboardRefresh

inductive FetchError where
  /-- Nothing usable was retrieved. -/
  | noContent (reason : String)
  /-- Some of the items are missing, and the rest can be shown. -/
  | partialContent (failed total : Nat) (what : String)
  /-- The request could not be made or was not answered. -/
  | request (url reason : String)
  /-- The answer has a status other than 200. -/
  | status (code : Nat) (url body : String)
  /-- The answer is not the document that was expected. -/
  | decode (url reason : String)
  deriving DecidableEq

namespace FetchError

/-- Whether the error leaves content that can be shown. -/
def isPartial : FetchError → Bool
  | partialContent .. => true
  | _ => false

def message : FetchError → String
  | noContent reason => "failed to retrieve any content: " ++ reason
  | partialContent failed total what =>
    "failed to retrieve some of the content: missing " ++ toString failed ++ " of " ++
      toString total ++ " " ++ what
  | request url reason => "request to " ++ url ++ " failed: " ++ reason
  | status code url body =>
    "unexpected status code " ++ toString code ++ " from " ++ url ++ ", response: " ++ body
  | decode url reason => "could not decode response from " ++ url ++ ": " ++ reason

end FetchError

end DashboardRefresh
