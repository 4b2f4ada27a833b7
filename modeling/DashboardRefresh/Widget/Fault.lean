import DashboardRefresh.Release.Entry

/-!
# Widget faults

Why a widget cannot be built from its configuration.
-/

namespace DashboardRefresh

/-- What kind of widget an entry describes. -/
inductive WidgetKind where
  | html
  | calendar
  | monitor
  | customApi
  | releases
  | group
  deriving DecidableEq

namespace WidgetKind

def all : List WidgetKind := [html, calendar, monitor, customApi, releases, group]

/-- The name of the kind in configuration files and snapshots. -/
def name : WidgetKind → String
  | html => "html"
  | calendar => "calendar"
  | monitor => "monitor"
  | customApi => "custom-api"
  | releases => "releases"
  | group => "group"

def ofName? (name : String) : Option WidgetKind := all.find? (·.name = name)

end WidgetKind

inductive WidgetFault where
  /-- A site of a monitor without a URL. -/
  | siteWithoutUrl (title : String)
  | urlRequired
  | noRepository
  | badRepository (error : EntryError)
  | unknownSource (name : String)
  | zeroLimit
  | nestedGroup
  /-- A fault of the child at a position of a group. -/
  | child (position : Nat) (kind : WidgetKind) (fault : WidgetFault)
  deriving DecidableEq

/-- A message about the widget of some kind at some position. -/
def widgetMessage (position : Nat) (kind message : String) : String :=
  "Widget #" ++ toString position ++ " (" ++ kind ++ "): " ++ message

def WidgetFault.message : WidgetFault → String
  | siteWithoutUrl title => "site `" ++ title ++ "` has no url"
  | urlRequired => "url is required"
  | noRepository => "at least one repository is required"
  | badRepository error => error.message
  | unknownSource name => "unknown release source `" ++ name ++ "`"
  | zeroLimit => "limit must be greater than zero"
  | nestedGroup => "nested groups are not supported"
  | child position kind fault => widgetMessage position kind.name fault.message

end DashboardRefresh
