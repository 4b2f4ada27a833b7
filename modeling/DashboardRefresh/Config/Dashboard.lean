import DashboardRefresh.Config.Widget
import DashboardRefresh.Toml.Document

/-!
# Dashboard files

A dashboard is described by a TOML file: how often to look for widgets that are due, how long to
wait for an answer, and the widgets. Reading the file gives the first thing that is wrong with it.
-/

namespace DashboardRefresh

/-- Why a text is no dashboard file. -/
inductive ParseFault where
  /-- Not a TOML document. -/
  | malformed
  /-- A datum that does not fit its place. -/
  | unfit (error : DatumError)
  /-- A fault of which only the text is known. -/
  | stated (text : String)

def ParseFault.message : ParseFault → String
  | malformed => "TOML parse error"
  | unfit error => "TOML parse error: " ++ error.message .toml
  | stated text => text

/-- Why a file cannot be read as text. -/
inductive FileFault where
  | missing
  | notText
  /-- The path goes on below something that is no directory. -/
  | notDirectory
  | directory
  /-- The path, or a name on it, is too long. -/
  | nameTooLong
  deriving DecidableEq

def FileFault.message : FileFault → String
  | missing => "No such file or directory (os error 2)"
  | notText => "stream did not contain valid UTF-8"
  | notDirectory => "Not a directory (os error 20)"
  | directory => "Is a directory (os error 21)"
  | nameTooLong => "File name too long (os error 36)"

/-- What is wrong with a configuration. -/
inductive ConfigError where
  | missingRequired (key hint : String)
  | invalidValue (key message : String)
  | invalidWidget (position : Nat) (kind message : String)
  | parse (fault : ParseFault)
  | file (fault : FileFault)

def ConfigError.message : ConfigError → String
  | missingRequired key hint => "Missing required configuration: " ++ key ++ ". " ++ hint
  | invalidValue key message => invalidValueMessage key message
  | invalidWidget position kind message => widgetMessage position kind message
  | parse fault => "Failed to parse configuration: " ++ fault.message
  | file fault => "IO error: " ++ fault.message

/-- The error of a text that is not a duration. -/
def ConfigError.ofDuration (error : Duration.TextError) : ConfigError :=
  invalidValue "duration" error.message

/-- The error of a widget that cannot be built. -/
def ConfigError.ofWidget (position : Nat) (kind : WidgetKind) (fault : WidgetFault) : ConfigError :=
  invalidWidget position kind.name fault.message

structure DashboardConfig where
  /-- How often to look for widgets that are due. -/
  tickInterval : Duration
  /-- How long to wait for an answer. -/
  requestTimeout : Duration
  widgets : List WidgetConfig

namespace DashboardConfig

/-- A dashboard of which nothing is said. -/
def blank : DashboardConfig := ⟨.ofSeconds 30, .ofSeconds 5, []⟩

def set (c : DashboardConfig) (name : String) (d : Datum) : Except DatumError DashboardConfig :=
  match name with
  | "tick_interval" => return { c with tickInterval := ← d.asDuration }
  | "request_timeout" => return { c with requestTimeout := ← d.asDuration }
  | "widgets" => return { c with widgets := ← WidgetConfig.listOf d }
  | _ => .ok c

def ofEntries (entries : List (String × Datum)) : Except DatumError DashboardConfig :=
  Datum.readFields set blank entries

/-- A dashboard needs a tick interval and a timeout that are not zero, and a widget. -/
def validate (c : DashboardConfig) : Except ConfigError DashboardConfig :=
  if c.tickInterval.isZero then .error (.invalidValue "tick_interval" "must be greater than zero")
  else if c.requestTimeout.isZero then
    .error (.invalidValue "request_timeout" "must be greater than zero")
  else if c.widgets.isEmpty then
    .error (.missingRequired "widgets" "Add at least one [[widgets]] entry.")
  else .ok c

/-- Read a dashboard from the text of its file. -/
def parse (text : String) : Except ConfigError DashboardConfig := do
  match Toml.read? text with
  | none => .error (.parse .malformed)
  | some entries => validate (← (ofEntries entries).mapError fun e => .parse (.unfit e))

end DashboardConfig

/-- Read a dashboard from what its file holds. -/
def DashboardConfig.load (content : Except FileFault ByteArray) :
    Except ConfigError DashboardConfig := do
  let bytes ← content.mapError .file
  match String.fromUTF8? bytes with
  | some text => parse text
  | none => .error (.file .notText)

end DashboardRefresh
