import DashboardRefresh.Board.Failure
import DashboardRefresh.Board.FileTree
import DashboardRefresh.Board.LogFilter
import DashboardRefresh.Board.Ticker
import DashboardRefresh.Json.Printer

/-!
# The command line

The program sets up its log, loads the dashboard file that its settings name and builds the
dashboard. Then it makes one sweep and prints what the widgets show, or it sweeps and goes on with a
ticker until it is interrupted. An error is reported with its causes.
-/

namespace DashboardRefresh

/-! ## Error reports -/

/-- A cause in a report, indented, and numbered if it is one of several. -/
def indentCause (number : Option Nat) (cause : String) : String :=
  let lines := cause.splitOn "\n"
  match number with
  | none => String.intercalate "\n" (lines.map ("    " ++ ·))
  | some n =>
    "    " ++ toString n ++ ": " ++ String.intercalate "\n       " lines

/-- The report of an error and its causes, each the cause of the one before. -/
def errorReport (error : String) (causes : List String) : String :=
  let block := match causes with
    | [] => ""
    | [cause] => "\n\nCaused by:\n" ++ indentCause none cause
    | causes =>
      "\n\nCaused by:\n" ++
        String.intercalate "\n" (causes.zipIdx.map fun c => indentCause (some c.2) c.1)
  "Error: " ++ error ++ block

/-- What lies behind an error of a configuration, if there is something. -/
def ConfigError.cause? : ConfigError → Option String
  | .file fault => some fault.message
  | _ => none

/-! ## Runs -/

/-- What a run finds: its environment, whether it can set up its log, what the paths lead to after
that, what its first sweep meets, and its timer. -/
structure Invocation where
  environment : Environment
  logReady : Bool
  file : String → Except FileFault ByteArray
  conditions : Conditions
  timer : Timer

/-- How a run goes on once its dashboard is built. -/
inductive Course where
  /-- It ends with an error report. -/
  | failed (report : String)
  /-- It breaks off: the log filter is torn, the log file cannot be opened, or the clock cannot be
  read. -/
  | broken
  /-- It prints the widgets after one sweep, and ends. -/
  | printed (snapshots : List Json)
  /-- It goes on with a ticker until it is interrupted. -/
  | ticking (ticker : Ticker)

/-- The code that the program ends with. -/
def Course.exitCode : Course → Nat
  | failed _ => 1
  | broken => 101
  | printed _ | ticking _ => 0

namespace Invocation

/-- The tree in which a run has set up its log, if that is possible. -/
def treeWithLog? (t : FileTree) (e : Environment) (c : Clock) : Option FileTree :=
  if e.logFilter.isOk then (t.withLog (.ofEnvironment e) c).toOption else none

/-- A run in the working directory of a tree. -/
def within (t : FileTree) (e : Environment) (c : Conditions) (timer : Timer) : Invocation :=
  match treeWithLog? t e c.clock with
  | some t => ⟨e, true, t.read, c, timer⟩
  | none => ⟨e, false, t.read, c, timer⟩

def settings (i : Invocation) : Settings := .ofEnvironment i.environment

/-- Load the dashboard file and build the dashboard. -/
def dashboard (i : Invocation) : Except String Dashboard := do
  let path := i.settings.configPath
  let config ← (DashboardConfig.load (i.file path)).mapError fun e =>
    errorReport ("failed to load " ++ path) (e.message :: e.cause?.toList)
  (Dashboard.ofConfig config).mapError fun e =>
    errorReport "failed to build dashboard" [(Failure.config e).message, e.message]

/-- The first sweep, and how the run goes on from there. -/
def course (i : Invocation) : Course :=
  if !i.logReady then .broken
  else match i.dashboard with
    | .error report => .failed report
    | .ok d =>
      match i.conditions.clock.read with
      | .error _ => .broken
      | .ok now =>
        let swept := d.sweep i.conditions now
        let d := swept.dashboard
        if i.settings.once then .printed d.snapshots
        else
          let clock := i.conditions.clock.advance swept.waited
          .ticking (.start i.timer d d.tickInterval.toMillis clock)

/-- What the log says when the program stops, after it was interrupted. -/
def stopMessage : LogMessage := ⟨"feedboard", ["message"], .info⟩

/-- Whether the log says that the program stopped. -/
def logsStop (i : Invocation) : Bool :=
  match i.environment.logFilter with
  | .ok f => f.shows stopMessage
  | .error _ => false

end Invocation

end DashboardRefresh
