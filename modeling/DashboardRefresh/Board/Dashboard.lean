import DashboardRefresh.Config.Dashboard
import DashboardRefresh.Widget.Build
import DashboardRefresh.Widget.Snapshot

/-!
# Dashboards

A dashboard holds widgets in the order of their configuration. A sweep updates the widgets that are
due, all at once, and ends with the last of them.
-/

namespace DashboardRefresh

/-- What a dashboard meets while a sweep goes on: the time, the zone, the network and, by the number
of a leaf, whether an answer counts that comes together with a cancellation. -/
structure Conditions where
  clock : Clock
  offset : Int
  network : Network
  answerCounts : Nat → Bool

structure Dashboard where
  widgets : List Widget
  tickInterval : Duration
  requestTimeout : Duration
  /-- Whether the dashboard is being shut down. -/
  cancelled : Bool

/-- A dashboard after a sweep. -/
structure Sweep where
  dashboard : Dashboard
  /-- How many widgets were updated, a group counting as one. -/
  dispatched : Nat
  sent : List Request
  /-- The milliseconds until the last update was over. -/
  waited : Nat

namespace Dashboard

/-- Build widgets from some entries, the first of which stands at a position. The first entry that
is not valid decides the error. -/
def buildFrom (last position : Nat) : List WidgetConfig → Except ConfigError (List Widget)
  | [] => .ok []
  | c :: rest =>
    let built := Widget.build last c
    match built.result with
    | .error fault => .error (.ofWidget position c.kind fault)
    | .ok w => (buildFrom built.last (position + 1) rest).map (w :: ·)

/-- Build a dashboard. -/
def ofConfig (c : DashboardConfig) : Except ConfigError Dashboard :=
  (buildFrom 0 0 c.widgets).map fun widgets => ⟨widgets, c.tickInterval, c.requestTimeout, false⟩

/-- Begin to shut the dashboard down. -/
def cancel (d : Dashboard) : Dashboard := { d with cancelled := true }

/-- What the updates of the dashboard meet. -/
def surroundings (d : Dashboard) (c : Conditions) : Surroundings :=
  { clock := c.clock
    offset := c.offset
    network := c.network
    requestTimeout := d.requestTimeout
    cancellation := if d.cancelled then .before else .never
    answerCounts := c.answerCounts }

/-- Update a widget if it is due at `now`. -/
def updateDue (s : Surroundings) (now : Instant) (w : Widget) : WidgetUpdate :=
  if w.isDue now then w.update s else ⟨w, [], 0⟩

/-- Update all widgets that are due at `now`, in some surroundings. -/
def sweepIn (d : Dashboard) (s : Surroundings) (now : Instant) : Sweep :=
  let updates := d.widgets.map (updateDue s now)
  { dashboard := { d with widgets := updates.map (·.widget) }
    dispatched := d.widgets.countP (·.isDue now)
    sent := updates.flatMap (·.sent)
    waited := (updates.map (·.waited)).foldl max 0 }

/-- Update all widgets that are due at `now`. -/
def sweep (d : Dashboard) (c : Conditions) (now : Instant) : Sweep :=
  d.sweepIn (d.surroundings c) now

/-- A sweep during which the dashboard begins to be shut down, some milliseconds after the start of
the sweep. -/
def sweepIntoShutdown (d : Dashboard) (c : Conditions) (now : Instant) (millis : Nat) : Sweep :=
  let cancellation : Cancellation := if d.cancelled then .before else .atMillis millis
  let swept := d.sweepIn { d.surroundings c with cancellation } now
  { swept with dashboard := swept.dashboard.cancel }

/-- What the widgets show. -/
def snapshots (d : Dashboard) : List Json := d.widgets.map (·.snapshot)

end Dashboard

end DashboardRefresh
