import DashboardRefresh.Config.Widget
import DashboardRefresh.Fetch.Batch
import DashboardRefresh.Release.Lookup

/-!
# Release lists

The latest releases of some repositories, the newest first and no more than a limit.
-/

namespace DashboardRefresh

structure ReleaseList where
  entries : List ReleaseEntry
  endpoints : Endpoints
  limit : Nat
  releases : List Release
  deriving DecidableEq

namespace ReleaseList

/-- The number of workers that look up releases. -/
def workers : Nat := 20

/-- How many releases are kept where nothing is said. -/
def defaultLimit : Nat := 10

/-- The root of an API, by its source and without slashes at its end. -/
def baseUrl (name url : String) : Except WidgetFault (ReleaseSource × String) :=
  match ReleaseSource.ofName? name with
  | some source =>
    .ok (source, String.ofList ((url.toList.reverse.dropWhile (· == '/')).reverse))
  | none => .error (.unknownSource name)

/-- An empty token is none. -/
def token (t : Option String) : Option String := t.filter (!·.isEmpty)

/-- A list without releases yet. It needs a repository, and a limit that is not zero. -/
def ofConfig (c : ReleasesConfig) : Except WidgetFault ReleaseList := do
  if c.repositories.isEmpty then .error .noRepository
  else
    let entries ← c.repositories.mapM fun text => (ReleaseEntry.parse text).mapError .badRepository
    let baseUrls ← c.baseUrls.mapM fun p => baseUrl p.1 p.2
    let limit := c.limit.getD defaultLimit
    if limit = 0 then .error .zeroLimit
    else return ⟨entries, ⟨baseUrls, token c.githubToken, token c.gitlabToken⟩, limit, []⟩

/-- Look up all releases. -/
def lookUp (l : ReleaseList) (network : Network) (timeout : Duration)
    (cancellation : Cancellation) : BatchRun FetchError Release :=
  runAttempts workers cancellation (l.entries.map fun e => e.lookup l.endpoints network timeout)

/-- Whether the first release may stand before the second: it is not older, and a release without a
date is older than any with one. -/
def mayPrecede (a b : Release) : Bool :=
  match a.publishedAt, b.publishedAt with
  | some x, some y => !x.before y
  | none, some _ => false
  | _, none => true

/-- The releases to keep: the newest first, those of the same date in the order of their entries. -/
def select (limit : Nat) (releases : List Release) : List Release :=
  (releases.mergeSort mayPrecede).take limit

/-- Store the results of a batch of lookups. -/
def store (l : ReleaseList) (batch : Batch FetchError Release) : ReleaseList :=
  { l with releases := select l.limit batch.kept }

end ReleaseList

end DashboardRefresh
