import DashboardRefresh.Config.Widget
import DashboardRefresh.Fetch.Batch

/-!
# Monitors

A monitor checks a list of sites. A site that is down is content, shown as failing; only a check
that is not made counts against the monitor.
-/

namespace DashboardRefresh

/-- What the last check of a site gave: a status code, or an error. -/
structure SiteStatus where
  code : Option Nat
  timedOut : Bool
  /-- The milliseconds until there was an answer, or none was waited for any longer. -/
  responseMillis : Nat
  error : Option String
  deriving DecidableEq

namespace SiteStatus

/-- A site is in order when its code is 200 or one of some others. -/
def isOk (s : SiteStatus) (altCodes : List Nat) : Bool :=
  match s.code with
  | some code => code == 200 || altCodes.contains code
  | none => false

/-- A site fails when it has an error, no code, or a code of 400 or more that is not all right. -/
def isFailing (s : SiteStatus) (altCodes : List Nat) : Bool :=
  s.error.isSome ||
    match s.code with
    | some code => 400 ≤ code && !altCodes.contains code
    | none => true

/-- The status in words. -/
def text (s : SiteStatus) (altCodes : List Nat) : String :=
  if s.isOk altCodes then "OK"
  else match s.code with
    | none => if s.timedOut then "Timed Out" else "Error"
    | some code =>
      if code = 404 then "Not Found"
      else if code = 403 then "Forbidden"
      else if code = 401 then "Unauthorized"
      else if 500 ≤ code then "Server Error"
      else if 400 ≤ code then "Client Error"
      else toString code

/-- The style in which the status is shown. -/
def style (s : SiteStatus) (altCodes : List Nat) : String :=
  if s.isOk altCodes then "ok" else "error"

end SiteStatus

namespace SiteConfig

/-- How long a check waits where nothing is said. -/
def defaultTimeout : Duration := .ofSeconds 3

/-- How long a check of the site waits. -/
def checkTimeout (site : SiteConfig) : Duration :=
  match site.timeout with
  | some timeout => if timeout.isZero then defaultTimeout else timeout
  | none => defaultTimeout

/-- The request that checks the site. -/
def request (site : SiteConfig) : Except BuildError Request := do
  let r ← Request.ofText .get (site.checkUrl.getD site.url) site.checkTimeout
  let r := { r with allowInsecure := site.allowInsecure }
  match site.credentials with
  | some c => return r.withCredentials c.username c.password
  | none => return r

/-- The status that an answer shows, of which only the head is waited for. -/
def statusOf (sent : Attempt (Except SendError Response)) : SiteStatus :=
  let millis := min sent.waited (Word.unsignedLimit - 1)
  match sent.result with
  | .ok response => ⟨some response.status, false, millis, none⟩
  | .error e => ⟨none, e.timedOut, millis, some e.message⟩

/-- Check the site. -/
def check (site : SiteConfig) (network : Network) : Attempt SiteStatus :=
  match site.request with
  | .error e => .offline ⟨none, false, 0, some e.message⟩
  | .ok r =>
    let sent := r.send network
    { sent with result := statusOf sent }

end SiteConfig

/-- A site with the status of its last check. -/
structure MonitoredSite where
  config : SiteConfig
  status : Option SiteStatus
  deriving DecidableEq

namespace MonitoredSite

/-- The site after a check, with the error of one that was not made as its status. -/
def record (s : MonitoredSite) (result : Except FetchError SiteStatus) : MonitoredSite :=
  let status := match result with
    | .ok status => status
    | .error e => ⟨none, false, 0, some e.message⟩
  { s with status := some status }

/-- What the site links to: another URL while the last check erred, if there is one. -/
def link (s : MonitoredSite) : String :=
  match s.status.bind (·.error), s.config.errorUrl with
  | some _, some errorUrl => errorUrl
  | _, _ => s.config.url

/-- Whether the last check failed. -/
def isFailing (s : MonitoredSite) : Bool := s.status.any (·.isFailing s.config.altStatusCodes)

def statusText (s : MonitoredSite) : String :=
  match s.status with
  | some status => status.text s.config.altStatusCodes
  | none => ""

def statusStyle (s : MonitoredSite) : String :=
  match s.status with
  | some status => status.style s.config.altStatusCodes
  | none => ""

end MonitoredSite

structure Monitor where
  sites : List MonitoredSite
  showFailingOnly : Bool
  deriving DecidableEq

namespace Monitor

/-- The number of workers that check sites. -/
def workers : Nat := 20

/-- A monitor of sites that have not been checked yet. Every site needs a URL. -/
def ofConfig (sites : List SiteConfig) (showFailingOnly : Bool) : Except WidgetFault Monitor :=
  match sites.find? fun site => Text.isBlankText site.url with
  | some site => .error (.siteWithoutUrl site.title)
  | none => .ok ⟨sites.map (⟨·, none⟩), showFailingOnly⟩

def hasFailing (m : Monitor) : Bool := m.sites.any (·.isFailing)

/-- Check all sites. -/
def check (m : Monitor) (network : Network) (cancellation : Cancellation) :
    BatchRun FetchError SiteStatus :=
  runAttempts workers cancellation (m.sites.map fun s => (s.config.check network).map .ok)

/-- Store the status of the site at a position. -/
def storeStatus (m : Monitor) (result : Nat × Except FetchError SiteStatus) : Monitor :=
  { m with sites := m.sites.modify result.1 (·.record result.2) }

/-- Store the results of a batch of checks. -/
def store (m : Monitor) (batch : Batch FetchError SiteStatus) : Monitor :=
  batch.results.foldl storeStatus m

end Monitor

end DashboardRefresh
