import DashboardRefresh.Widget.Basic

/-!
# Building widgets

Widgets are built from the entries of a configuration one after the other, and each takes the next
number when its turn comes, whether it turns out to be valid or not. A group takes its number before
its children.
-/

namespace DashboardRefresh

/-- What comes of building something, and the last number that has been taken. -/
structure Built (α : Type) where
  result : Except WidgetFault α
  last : Nat

namespace Content

/-- The content that an entry describes, without data. -/
def ofConfig : LeafConfig → Except WidgetFault Content
  | .html source => .ok (html source)
  | .calendar startSunday => .ok (calendar startSunday none)
  | .monitor sites showFailingOnly => (Monitor.ofConfig sites showFailingOnly).map monitor
  | .customApi api =>
    if Text.isBlankText api.url then .error .urlRequired else .ok (customApi api none)
  | .releases c => (ReleaseList.ofConfig c).map releases

end Content

namespace WidgetKind

def defaultTitle : WidgetKind → String
  | html | group => ""
  | calendar => "Calendar"
  | monitor => "Monitor"
  | customApi => "Custom API"
  | releases => "Releases"

def defaultPolicy : WidgetKind → CachePolicy
  | html | group => .never
  | calendar => .hourly
  | monitor => .fixed (.ofSeconds 300)
  | customApi => .fixed (.ofSeconds 3600)
  | releases => .fixed (.ofSeconds 7200)

/-- Whether widgets of the kind have content from the start. -/
def isStatic : WidgetKind → Bool
  | html | group => true
  | _ => false

end WidgetKind

/-- The policy of a widget whose entry may ask for another one. Only a fixed policy gives way, and
only to a time that is not zero. -/
def CachePolicy.override (policy : CachePolicy) (custom : Option Duration) : CachePolicy :=
  match policy, custom with
  | .fixed _, some d => if d.isZero then policy else .fixed d
  | _, _ => policy

namespace WidgetBase

/-- What a widget of some kind has by its entry. The header of a group is always hidden. -/
def ofConfig (id : Nat) (kind : WidgetKind) (c : CommonConfig) : WidgetBase where
  id := id
  title := c.title.getD kind.defaultTitle
  titleUrl := c.titleUrl
  hideHeader := c.hideHeader || kind == .group
  cssClass := c.cssClass
  refresh :=
    let refresh := RefreshState.initial (kind.defaultPolicy.override c.cache)
    if kind.isStatic then refresh.withContent else refresh

end WidgetBase

namespace Leaf

/-- Build a leaf. -/
def build (last : Nat) (c : CommonConfig) (content : LeafConfig) : Built Leaf where
  result := (Content.ofConfig content).map fun built =>
    ⟨WidgetBase.ofConfig (last + 1) content.kind c, built⟩
  last := last + 1

/-- The leaf as a child, without its header. -/
def asChild (l : Leaf) : Leaf := { l with base := { l.base with hideHeader := true } }

end Leaf

namespace Group

/-- Build the children of a group from the child at `position` on. A group has no place in another
one. -/
def buildChildren (last position : Nat) : List WidgetConfig → Built (List Leaf)
  | [] => ⟨.ok [], last⟩
  | .group .. :: _ => ⟨.error .nestedGroup, last⟩
  | .leaf c content :: rest =>
    let child := Leaf.build last c content
    match child.result with
    | .error fault => ⟨.error (.child position content.kind fault), child.last⟩
    | .ok l =>
      let others := buildChildren child.last (position + 1) rest
      ⟨others.result.map (l.asChild :: ·), others.last⟩

end Group

namespace Widget

/-- Build the widget of an entry. -/
def build (last : Nat) : WidgetConfig → Built Widget
  | .leaf c content =>
    let l := Leaf.build last c content
    ⟨l.result.map leaf, l.last⟩
  | .group c children =>
    let built := Group.buildChildren (last + 1) 0 children
    ⟨built.result.map (group (WidgetBase.ofConfig (last + 1) .group c)), built.last⟩

/-- Build the widgets of some entries, going on after those that are not valid. -/
def buildAll (last : Nat) : List WidgetConfig → List (Except WidgetFault Widget) × Nat
  | [] => ([], last)
  | c :: rest =>
    let built := build last c
    let others := buildAll built.last rest
    (built.result :: others.1, others.2)

end Widget

end DashboardRefresh
