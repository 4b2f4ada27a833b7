import DashboardRefresh.Config.Fields
import DashboardRefresh.Number.Word

/-!
# Widget entries

What a configuration says about a widget: the fields that all widgets have, and those of its kind.
A group holds entries in turn. The common fields are read first, then the kind, then its fields.
-/

namespace DashboardRefresh

open Datum

/-- A user name and a password. -/
structure Credentials where
  username : String
  password : String
  deriving DecidableEq

/-- One site of a monitor. -/
structure SiteConfig where
  title : String
  url : String
  /-- Checked in place of `url`. -/
  checkUrl : Option String
  /-- Linked in place of `url` while the check errs. -/
  errorUrl : Option String
  allowInsecure : Bool
  timeout : Option Duration
  credentials : Option Credentials
  /-- Status codes that are as good as 200. -/
  altStatusCodes : List Nat
  deriving DecidableEq

/-- The fields of a custom API. -/
structure ApiConfig where
  url : String
  headers : List (String × String)
  /-- What to send; without it nothing is sent. -/
  body : Option Json

/-- The fields of a list of releases. -/
structure ReleasesConfig where
  repositories : List String
  githubToken : Option String
  gitlabToken : Option String
  /-- The roots of the APIs, by the name of their source. -/
  baseUrls : List (String × String)
  limit : Option Nat
  deriving DecidableEq

/-- The fields that all widgets have. -/
structure CommonConfig where
  title : Option String
  titleUrl : Option String
  hideHeader : Bool
  cssClass : Option String
  /-- How long content stays fresh. -/
  cache : Option Duration
  deriving DecidableEq

/-- The fields of the kinds of widgets other than groups. -/
inductive LeafConfig where
  | html (source : String)
  | calendar (startSunday : Bool)
  | monitor (sites : List SiteConfig) (showFailingOnly : Bool)
  | customApi (api : ApiConfig)
  | releases (config : ReleasesConfig)

inductive WidgetConfig where
  | leaf (common : CommonConfig) (content : LeafConfig)
  | group (common : CommonConfig) (children : List WidgetConfig)

def LeafConfig.kind : LeafConfig → WidgetKind
  | html .. => .html
  | calendar .. => .calendar
  | monitor .. => .monitor
  | customApi .. => .customApi
  | releases .. => .releases

namespace WidgetConfig

def kind : WidgetConfig → WidgetKind
  | leaf _ content => content.kind
  | group .. => .group

def common : WidgetConfig → CommonConfig
  | leaf common _ => common
  | group common _ => common

end WidgetConfig

/-! ## Reading -/

namespace Credentials

def set (c : Credentials) (name : String) (d : Datum) : Except DatumError Credentials :=
  match name with
  | "username" => return { c with username := ← d.asText }
  | "password" => return { c with password := ← d.asText }
  | _ => .ok c

def ofDatum : Datum → Except DatumError Credentials :=
  asRecord .credentials ["username", "password"] set ⟨"", ""⟩ ["username"]

end Credentials

namespace SiteConfig

/-- A site of which nothing is known. -/
def blank : SiteConfig := ⟨"", "", none, none, false, none, none, []⟩

def set (s : SiteConfig) (name : String) (d : Datum) : Except DatumError SiteConfig :=
  match name with
  | "title" => return { s with title := ← d.asText }
  | "url" => return { s with url := ← d.asText }
  | "check_url" => return { s with checkUrl := ← d.asOptional asText }
  | "error_url" => return { s with errorUrl := ← d.asOptional asText }
  | "allow_insecure" => return { s with allowInsecure := ← d.asBoolean }
  | "timeout" => return { s with timeout := ← d.asOptional asDuration }
  | "basic_auth" => return { s with credentials := ← d.asOptional Credentials.ofDatum }
  | "alt_status_codes" =>
    return { s with altStatusCodes := ← d.asList (asNatural 65536 .statusCode) }
  | _ => .ok s

def ofDatum : Datum → Except DatumError SiteConfig :=
  asRecord .site
    ["title", "url", "check_url", "error_url", "allow_insecure", "timeout", "basic_auth",
      "alt_status_codes"]
    set blank ["title", "url"]

end SiteConfig

namespace CommonConfig

def blank : CommonConfig := ⟨none, none, false, none, none⟩

def set (c : CommonConfig) (name : String) (d : Datum) : Except DatumError CommonConfig :=
  match name with
  | "title" => return { c with title := ← d.asOptional asText }
  | "title_url" => return { c with titleUrl := ← d.asOptional asText }
  | "hide_header" => return { c with hideHeader := ← d.asBoolean }
  | "css_class" => return { c with cssClass := ← d.asOptional asText }
  | "cache" => return { c with cache := ← d.asOptional asDuration }
  | _ => .ok c

end CommonConfig

namespace ApiConfig

def blank : ApiConfig := ⟨"", [], none⟩

def set (a : ApiConfig) (name : String) (d : Datum) : Except DatumError ApiConfig :=
  match name with
  | "url" => return { a with url := ← d.asText }
  | "headers" => return { a with headers := ← d.asTexts }
  | "body" => return { a with body := ← d.asOptional (fun d => .ok d.toJson) }
  | _ => .ok a

end ApiConfig

namespace ReleasesConfig

def blank : ReleasesConfig := ⟨[], none, none, [], none⟩

def set (r : ReleasesConfig) (name : String) (d : Datum) : Except DatumError ReleasesConfig :=
  match name with
  | "repositories" => return { r with repositories := ← d.asList asText }
  | "token" => return { r with githubToken := ← d.asOptional asText }
  | "gitlab_token" => return { r with gitlabToken := ← d.asOptional asText }
  | "base_urls" => return { r with baseUrls := ← d.asTexts }
  | "limit" => return { r with limit := ← d.asOptional (asNatural Word.unsignedLimit .count) }
  | _ => .ok r

end ReleasesConfig

namespace LeafConfig

def setHtml (source : String) (name : String) (d : Datum) : Except DatumError String :=
  if name = "source" then d.asText else .ok source

def setCalendar (startSunday : Bool) (name : String) (d : Datum) : Except DatumError Bool :=
  if name = "start_sunday" then d.asBoolean else .ok startSunday

def setMonitor (m : List SiteConfig × Bool) (name : String) (d : Datum) :
    Except DatumError (List SiteConfig × Bool) :=
  match name with
  | "sites" => return (← d.asList SiteConfig.ofDatum, m.2)
  | "show_failing_only" => return (m.1, ← d.asBoolean)
  | _ => .ok m

end LeafConfig

namespace WidgetConfig

/-- The kind that the entries of a widget name, or give by its place among all kinds. -/
def kindOf (entries : List (String × Datum)) : Except DatumError WidgetKind :=
  match entries.lookup "type" with
  | none => .error (.missing "type")
  | some (.text name) =>
    match WidgetKind.ofName? name with
    | some kind => .ok kind
    | none => .error (.unknownKind name)
  | some (.word n) =>
    match WidgetKind.all[n]? with
    | some kind => .ok kind
    | none => .error (.outOfRange n .kindPlace)
  | some d => .error (.unexpected d .kindName)

mutual

def ofDatum : Datum → Except DatumError WidgetConfig
  | .mapping entries => do
    let common ← readFields CommonConfig.set CommonConfig.blank entries
    match ← kindOf entries with
    | .html =>
      return leaf common (.html (← readRecord LeafConfig.setHtml "" ["source"] entries))
    | .calendar =>
      return leaf common (.calendar (← readFields LeafConfig.setCalendar false entries))
    | .monitor => do
      let m ← readFields LeafConfig.setMonitor ([], false) entries
      return leaf common (.monitor m.1 m.2)
    | .customApi =>
      return leaf common (.customApi (← readRecord ApiConfig.set ApiConfig.blank ["url"] entries))
    | .releases =>
      return leaf common
        (.releases (← readRecord ReleasesConfig.set ReleasesConfig.blank ["repositories"] entries))
    | .group => return group common (← childrenOf entries)
  | d => .error (.unexpected d .widget)

/-- The children of a group, found among its entries. -/
def childrenOf : List (String × Datum) → Except DatumError (List WidgetConfig)
  | [] => .error (.missing "widgets")
  | (name, d) :: entries => if name = "widgets" then listOf d else childrenOf entries

def listOf : Datum → Except DatumError (List WidgetConfig)
  | .sequence items => itemsOf items
  | d => .error (.unexpected d .sequence)

def itemsOf : List Datum → Except DatumError (List WidgetConfig)
  | [] => .ok []
  | d :: items => return (← ofDatum d) :: (← itemsOf items)

end

end WidgetConfig

end DashboardRefresh
