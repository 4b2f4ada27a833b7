import DashboardRefresh.Json.Reader
import DashboardRefresh.Refresh.State
import DashboardRefresh.Time.Clock
import DashboardRefresh.Widget.CalendarGrid
import DashboardRefresh.Widget.Monitor
import DashboardRefresh.Widget.ReleaseList

/-!
# Leaves

The widgets that are no groups. One update cycle of a leaf fetches its data, reports one outcome to
its refresh state and stores the data, unless the outcome was a total failure.

A clock that cannot be read, or an outcome whose report finds that the next update is out of range,
ends the cycle there and then: the data are not stored, apart from those of a calendar, which are
stored before the report.
-/

namespace DashboardRefresh

/-- What an update needs from outside. -/
structure Surroundings where
  /-- The clock, which stands still during an update. -/
  clock : Clock
  /-- How many minutes the local clock is ahead of universal time. -/
  offset : Int
  network : Network
  requestTimeout : Duration
  /-- When the update is cancelled, counted from its start. -/
  cancellation : Cancellation
  /-- Whether an answer counts that is there at the moment of the cancellation, by the number of the
  leaf. It is decided at random. -/
  answerCounts : Nat → Bool

/-- What all widgets have. -/
structure WidgetBase where
  id : Nat
  title : String
  titleUrl : Option String
  hideHeader : Bool
  cssClass : Option String
  refresh : RefreshState
  deriving DecidableEq

/-- What a leaf shows, and what it is made from. -/
inductive Content where
  | html (source : String)
  | calendar (startSunday : Bool) (grid : Option CalendarGrid)
  | monitor (m : Monitor)
  | customApi (api : ApiConfig) (document : Option Json)
  | releases (l : ReleaseList)

structure Leaf where
  base : WidgetBase
  content : Content

/-- One update cycle up to its report: the outcome, and the content to store. -/
structure Cycle where
  outcome : Outcome
  content : Content
  /-- Whether the content is stored before the outcome is reported. -/
  storedFirst : Bool
  sent : List Request
  waited : Nat
  connected : Bool

/-- The request of a custom API. -/
def ApiConfig.request (api : ApiConfig) (timeout : Duration) : Except BuildError Request := do
  let r ← match api.body with
    | some body => (Request.ofText .post api.url timeout).map (·.withJson body)
    | none => Request.ofText .get api.url timeout
  api.headers.foldlM (fun r h => r.addHeader h.1 h.2) r

/-- Fetch the document of a custom API. -/
def ApiConfig.fetch (api : ApiConfig) (s : Surroundings) : Attempt (Except FetchError Json) :=
  fetchDocument s.network (fun text => (Json.read? text).map (·.canonical))
    (api.request s.requestTimeout)

namespace Content

def kind : Content → WidgetKind
  | html .. => .html
  | calendar .. => .calendar
  | monitor .. => .monitor
  | customApi .. => .customApi
  | releases .. => .releases

/-- The error of an update that is given up because of a shutdown. -/
def updateCancelled : FetchError := .noContent "update cancelled"

/-- The cycle of a custom API that has fetched its document, or failed to. -/
def fetchedCycle (api : ApiConfig) (document : Option Json)
    (fetched : Attempt (Except FetchError Json)) : Cycle :=
  let content := match fetched.result with
    | .ok j => customApi api (some j)
    | .error _ => customApi api document
  ⟨Outcome.ofResult (fetched.result.map fun _ => ()), content, false, fetched.sent.toList,
    fetched.waited, fetched.connected⟩

/-- The cycle of a custom API that is given up before it has sent anything. -/
def givenUpCycle (api : ApiConfig) (document : Option Json) : Cycle :=
  ⟨.totalFailure updateCancelled, customApi api document, false, [], 0, false⟩

/-- The cycle of a custom API. A cancellation before the answer gives it up, and one before its
start keeps it from sending anything. When both are there at once, either may count: a request that
cannot be made is answered at its start. -/
def apiCycle (api : ApiConfig) (document : Option Json) (s : Surroundings) (answerCounts : Bool) :
    Cycle :=
  let fetched := api.fetch s
  let answered := fetchedCycle api document fetched
  let givenUp := givenUpCycle api document
  match s.cancellation with
  | .never => answered
  | .before => if !fetched.connected && answerCounts then answered else givenUp
  | .atMillis c =>
    if c < fetched.waited || (c == fetched.waited && !answerCounts) then
      { givenUp with sent := fetched.sent.toList, waited := c, connected := fetched.connected }
    else answered

/-- The cycle of a monitor. -/
def monitorCycle (m : Monitor) (s : Surroundings) : Cycle :=
  let run := m.check s.network s.cancellation
  ⟨Outcome.ofResult (run.batch.classify "site checks"), monitor (m.store run.batch), false,
    run.sent, run.waited, run.connected⟩

/-- The cycle of a list of releases. -/
def releasesCycle (l : ReleaseList) (s : Surroundings) : Cycle :=
  let run := l.lookUp s.network s.requestTimeout s.cancellation
  ⟨Outcome.ofResult (run.batch.classify "releases"), releases (l.store run.batch), false, run.sent,
    run.waited, run.connected⟩

/-- The cycle of a calendar, unless its grid cannot be drawn. -/
def calendarCycle (startSunday : Bool) (s : Surroundings) : Except OutOfRange Cycle := do
  let grid ← CalendarGrid.atInstant startSunday s.offset (← s.clock.read)
  return ⟨.success, calendar startSunday (some grid), true, [], 0, false⟩

/-- The update cycle of some content; static content has none. -/
def cycle (s : Surroundings) (answerCounts : Bool) : Content → Option (Except OutOfRange Cycle)
  | html _ => none
  | calendar startSunday _ => some (calendarCycle startSunday s)
  | monitor m => some (.ok (monitorCycle m s))
  | customApi api document => some (.ok (apiCycle api document s answerCounts))
  | releases l => some (.ok (releasesCycle l s))

end Content

/-- A leaf after an update. -/
structure LeafUpdate where
  leaf : Leaf
  sent : List Request
  waited : Nat
  connected : Bool
  /-- Whether the update ended before its time. -/
  halted : Bool

namespace Leaf

def kind (l : Leaf) : WidgetKind := l.content.kind

/-- Whether the leaf should be updated at `now`. -/
def isDue (l : Leaf) (now : Instant) : Bool := l.base.refresh.isDue now

/-- The leaf as it is, as an update. -/
def unchanged (l : Leaf) (halted : Bool) : LeafUpdate := ⟨l, [], 0, false, halted⟩

/-- Report the outcome of a cycle, if the clock can be read, and store its content. -/
def finish (l : Leaf) (s : Surroundings) (c : Cycle) : LeafUpdate :=
  match s.clock.read with
  | .error _ => ⟨l, c.sent, c.waited, c.connected, true⟩
  | .ok now =>
    let reported := l.base.refresh.report c.outcome s.offset now
    let stores := c.outcome.keepsData && (c.storedFirst || reported.complete)
    { leaf :=
        { base := { l.base with refresh := reported.state }
          content := if stores then c.content else l.content }
      sent := c.sent
      waited := c.waited
      connected := c.connected
      halted := !reported.complete }

/-- The update cycle of the leaf up to its report. -/
def cycle (l : Leaf) (s : Surroundings) : Option (Except OutOfRange Cycle) :=
  l.content.cycle s (s.answerCounts l.base.id)

/-- One update cycle. -/
def update (l : Leaf) (s : Surroundings) : LeafUpdate :=
  match l.cycle s with
  | none => l.unchanged false
  | some (.error _) => l.unchanged true
  | some (.ok c) => l.finish s c

variable {l : Leaf}

theorem update_of_customApi {api : ApiConfig} {document : Option Json}
    (h : l.content = .customApi api document) (s : Surroundings) : l.update s =
      l.finish s (Content.apiCycle api document s (s.answerCounts l.base.id)) := by
  unfold update cycle
  rw [h]
  rfl

theorem update_of_releases {list : ReleaseList} (h : l.content = .releases list)
    (s : Surroundings) : l.update s = l.finish s (Content.releasesCycle list s) := by
  unfold update cycle
  rw [h]
  rfl

end Leaf

end DashboardRefresh
