import DashboardRefresh.Widget.Basic

/-!
# Snapshots

What a widget shows, as a JSON document.
-/

namespace DashboardRefresh

namespace CalendarGrid

def toJson (g : CalendarGrid) : Json := .object [
  ("current_day", .ofNat g.day),
  ("current_month_name", .text g.monthName),
  ("current_week_number", .ofNat g.weekNumber),
  ("current_year", .ofInt g.year),
  ("days", .list (g.days.map .ofNat))]

end CalendarGrid

namespace SiteStatus

def toJson (s : SiteStatus) : Json := .object [
  ("code", .ofOption .ofNat s.code),
  ("error", .ofText? s.error),
  ("response_time_ms", .ofNat s.responseMillis),
  ("timed_out", .boolean s.timedOut)]

end SiteStatus

namespace Monitor

def siteToJson (s : MonitoredSite) : Json := .object [
  ("status", .ofOption SiteStatus.toJson s.status),
  ("status_style", .text s.statusStyle),
  ("status_text", .text s.statusText),
  ("title", .text s.config.title),
  ("url", .text s.link)]

def toJson (m : Monitor) : Json := .object [
  ("has_failing", .boolean m.hasFailing),
  ("show_failing_only", .boolean m.showFailingOnly),
  ("sites", .list (m.sites.map siteToJson))]

end Monitor

namespace Release

def toJson (r : Release) : Json := .object [
  ("published_at", .ofOption (fun t => .text t.text) r.publishedAt),
  ("repository", .text r.repository),
  ("source", .text r.source.name),
  ("url", .text r.url),
  ("version", .text r.version)]

end Release

namespace Content

/-- The data that the content shows. -/
def data : Content → Json
  | html source => .object [("source", .text source)]
  | calendar _ grid => .ofOption CalendarGrid.toJson grid
  | monitor m => m.toJson
  | customApi _ document => .object [("document", .ofOption id document)]
  | releases l => .object [("releases", .list (l.releases.map Release.toJson))]

end Content

/-- What a widget shows. -/
structure Snapshot where
  base : WidgetBase
  kind : WidgetKind
  data : Json

namespace Snapshot

def instantText (i : Instant) : String := (Timestamp.ofInstant i).text

/-- The members of a snapshot. -/
def members (s : Snapshot) : List (String × Json) :=
  let r := s.base.refresh
  [("id", .ofNat s.base.id), ("type", .text s.kind.name), ("title", .text s.base.title),
    ("title_url", .ofText? s.base.titleUrl), ("hide_header", .boolean s.base.hideHeader),
    ("css_class", .ofText? s.base.cssClass), ("content_available", .boolean r.contentAvailable),
    ("error", .ofText? (r.lastError.map FetchError.message)),
    ("notice", .ofText? (r.lastNotice.map FetchError.message)),
    ("next_update", .ofText? (r.nextUpdate.map instantText)),
    ("last_updated", .ofText? (r.lastUpdated.map instantText)), ("data", s.data)]

end Snapshot

namespace Leaf

def snapshot (l : Leaf) : Json := .object (Snapshot.members ⟨l.base, l.kind, l.content.data⟩)

end Leaf

namespace Widget

/-- What a widget shows. The children of a group are shown inside it, if it has any. -/
def snapshot : Widget → Json
  | leaf l => l.snapshot
  | group base children =>
    let inner := if children.isEmpty then [] else [("children", .list (children.map Leaf.snapshot))]
    .object (Snapshot.members ⟨base, .group, .null⟩ ++ inner)

end Widget

end DashboardRefresh
