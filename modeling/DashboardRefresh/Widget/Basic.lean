import DashboardRefresh.Widget.Leaf

/-!
# Widgets

A widget is a leaf or a group of leaves. A group is due when a child is, and updates the children
that are due by the clock; none, if the clock cannot be read.

The children of a group are updated together. When one of them ends before its time, so does the
update of the group: of the children that need not wait for the network only those before it are
updated, and of the others only those that end before it does, if none of the former ended early.
-/

namespace DashboardRefresh

inductive Widget where
  | leaf (l : Leaf)
  | group (base : WidgetBase) (children : List Leaf)

/-- A widget after an update. -/
structure WidgetUpdate where
  widget : Widget
  sent : List Request
  waited : Nat

namespace Widget

def base : Widget → WidgetBase
  | leaf l => l.base
  | group base _ => base

def kind : Widget → WidgetKind
  | leaf l => l.kind
  | group .. => .group

/-- The leaves of a widget. -/
def leaves : Widget → List Leaf
  | leaf l => [l]
  | group _ children => children

/-- Whether the widget, or a child of it, should be updated at `now`. -/
def isDue (w : Widget) (now : Instant) : Bool := w.leaves.any (·.isDue now)

end Widget

namespace Leaf

/-- Update a leaf that is due at `now`. -/
def updateIfDue (l : Leaf) (s : Surroundings) (now : Instant) : LeafUpdate :=
  if l.isDue now then l.update s else l.unchanged false

end Leaf

namespace Group

/-- A child with its update, of which it is open whether it comes about. -/
structure Pending where
  before : Leaf
  update : LeafUpdate

/-- The updates that do not need the network, up to one that ends early; and whether one did. -/
def runOffline : List Pending → List (Pending ⊕ Leaf) × Bool
  | [] => ([], false)
  | p :: ps =>
    if p.update.connected then
      let r := runOffline ps
      (.inl p :: r.1, r.2)
    else if p.update.halted then (.inr p.update.leaf :: ps.map (.inr ·.before), true)
    else
      let r := runOffline ps
      (.inr p.update.leaf :: r.1, r.2)

/-- The milliseconds until the first of the updates that are left ends early. -/
def haltTime (rest : List (Pending ⊕ Leaf)) : Nat :=
  (rest.filterMap fun
    | .inl p => if p.update.halted then some p.update.waited else none
    | .inr _ => none).min?.getD 0

/-- A child whose update comes about only if it takes less than `limit` milliseconds. -/
def cutOff (limit : Nat) : Pending ⊕ Leaf → Leaf
  | .inl p => if p.update.waited < limit then p.update.leaf else p.before
  | .inr l => l

/-- The updates that are left, of which the first to end early does so after `limit` milliseconds.
Those that end at the same time do so in turn. -/
def runConnected (limit : Nat) : List (Pending ⊕ Leaf) → List Leaf
  | [] => []
  | .inr l :: rest => l :: runConnected limit rest
  | .inl p :: rest =>
    if p.update.waited = limit then
      p.update.leaf :: if p.update.halted then rest.map (cutOff limit) else runConnected limit rest
    else cutOff limit (.inl p) :: runConnected limit rest

/-- The children after the updates of which some end early, and the milliseconds until then. -/
def settle (updates : List Pending) : List Leaf × Nat :=
  let (rest, halted) := runOffline updates
  if halted then (rest.map (cutOff 0), 0)
  else
    let limit := haltTime rest
    (runConnected limit rest, limit)

/-- Update the children of a group that are due by the clock. -/
def update (s : Surroundings) (children : List Leaf) : List Leaf × List Request × Nat :=
  match s.clock.read with
  | .error _ => (children, [], 0)
  | .ok now =>
    let updates := children.map (·.updateIfDue s now)
    let (leaves, waited) :=
      if updates.any (·.halted) then settle (List.zipWith Pending.mk children updates)
      else (updates.map (·.leaf), (updates.map (·.waited)).foldl max 0)
    (leaves, updates.flatMap (·.sent), waited)

end Group

namespace Widget

/-- One update cycle of a widget. -/
def update (w : Widget) (s : Surroundings) : WidgetUpdate :=
  match w with
  | leaf l =>
    let u := l.update s
    ⟨leaf u.leaf, u.sent, u.waited⟩
  | group base children =>
    let (children, sent, waited) := Group.update s children
    ⟨group base children, sent, waited⟩

end Widget

end DashboardRefresh
