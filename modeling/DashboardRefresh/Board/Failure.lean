import DashboardRefresh.Config.Dashboard
import DashboardRefresh.Fetch.Error
import DashboardRefresh.Pool.Batch

/-!
# Failures

The failures of the library as one type: a configuration that is wrong, data that cannot be fetched,
or a batch that was interrupted.
-/

namespace DashboardRefresh

inductive Failure where
  | config (error : ConfigError)
  | fetch (error : FetchError)
  | pool (cause : Interruption)

def Failure.message : Failure → String
  | config error => "Configuration error: " ++ error.message
  | fetch error => "Fetch error: " ++ error.message
  | pool cause => "Worker pool error: " ++ cause.message

end DashboardRefresh
