import DashboardRefresh.Text.Whitespace

/-!
# Settings

What the program is told by its environment: where the dashboard file is, where to keep logs, and
whether to make one sweep only. A variable whose value is no text counts as not set.
-/

namespace DashboardRefresh

/-- The variables of an environment. -/
abbrev Environment := List (String × ByteArray)

/-- The value of a variable, if it is set to a text. -/
def Environment.text? (e : Environment) (name : String) : Option String :=
  (e.lookup name).bind String.fromUTF8?

structure Settings where
  configPath : String
  logDir : Option String
  once : Bool
  deriving DecidableEq

namespace Settings

def defaultConfigPath : String := "feedboard.toml"

/-- Read the settings. -/
def ofEnvironment (e : Environment) : Settings where
  configPath := (e.text? "FEEDBOARD_CONFIG").getD defaultConfigPath
  logDir := (e.text? "FEEDBOARD_LOG_DIR").filter (!Text.isBlankText ·)
  once := (e.text? "FEEDBOARD_ONCE").any fun v => ["1", "true", "yes"].contains (Text.trim v)

end Settings

end DashboardRefresh
