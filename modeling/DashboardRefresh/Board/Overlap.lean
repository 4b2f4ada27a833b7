import DashboardRefresh.Board.Dashboard

/-!
# Overlapping sweeps

Several sweeps of one dashboard may be under way at once. Each visits the widgets in order and
begins the update of those that are due, passing over a widget whose last update is not over yet. A
run is any sequence of two kinds of steps: a sweep visits its next widget, or an update comes to its
end.
-/

namespace DashboardRefresh

namespace Overlap

/-- A widget, and the sweep that is updating it. -/
structure Slot where
  widget : Widget
  busy : Option Nat

/-- A sweep: the widget that it visits next, and how many updates it has begun. -/
structure Visitor where
  next : Nat
  dispatched : Nat
  deriving DecidableEq

structure State where
  slots : List Slot
  visitors : List Visitor
  sent : List Request
  waited : Nat

inductive Step where
  /-- A sweep visits its next widget. -/
  | visit (sweep : Nat)
  /-- The update of a widget ends. -/
  | finish (widget : Nat) (s : Surroundings)

namespace State

/-- A number of sweeps of widgets of which none is being updated. -/
def initial (widgets : List Widget) (sweeps : Nat) : State :=
  ⟨widgets.map (⟨·, none⟩), List.replicate sweeps ⟨0, 0⟩, [], 0⟩

/-- A sweep visits its next widget. -/
def visit (now : Instant) (sweep : Nat) (st : State) : State :=
  match st.visitors[sweep]? with
  | none => st
  | some v =>
    match st.slots[v.next]? with
    | none => st
    | some slot =>
      if slot.busy.isNone && slot.widget.isDue now then
        { st with
          slots := st.slots.set v.next { slot with busy := some sweep }
          visitors := st.visitors.set sweep ⟨v.next + 1, v.dispatched + 1⟩ }
      else { st with visitors := st.visitors.set sweep { v with next := v.next + 1 } }

/-- The update of a widget ends. -/
def finish (widget : Nat) (s : Surroundings) (st : State) : State :=
  match st.slots[widget]? with
  | none => st
  | some slot =>
    if slot.busy.isSome then
      let u := slot.widget.update s
      { st with
        slots := st.slots.set widget ⟨u.widget, none⟩
        sent := st.sent ++ u.sent
        waited := max st.waited u.waited }
    else st

def step (now : Instant) (st : State) : Step → State
  | .visit sweep => st.visit now sweep
  | .finish widget s => st.finish widget s

def run (now : Instant) (st : State) (steps : List Step) : State := steps.foldl (step now) st

/-- A sweep has returned when it has visited all widgets and none of its updates is under way. -/
def hasReturned (st : State) (sweep : Nat) : Prop :=
  (∃ v ∈ st.visitors[sweep]?, st.slots.length ≤ v.next) ∧ ∀ slot ∈ st.slots, slot.busy ≠ some sweep

end State

/-- The run in which each of some sweeps visits all widgets before the next one begins, and all
updates end after that. -/
def consecutive (widgets sweeps : Nat) (s : Surroundings) : List Step :=
  (List.range sweeps).flatMap (fun k => List.replicate widgets (.visit k)) ++
    (List.range widgets).map (.finish · s)

end Overlap

/-- What a number of sweeps at the same time make of a dashboard: how many updates each of them
began, and the whole as one sweep. -/
def Dashboard.sweepAtOnce (d : Dashboard) (c : Conditions) (now : Instant) (sweeps : Nat) :
    List Nat × Sweep :=
  let st := (Overlap.State.initial d.widgets sweeps).run now
    (Overlap.consecutive d.widgets.length sweeps (d.surroundings c))
  let counts := st.visitors.map (·.dispatched)
  let after := { d with widgets := st.slots.map (·.widget) }
  (counts, ⟨after, counts.foldl (· + ·) 0, st.sent, st.waited⟩)

end DashboardRefresh
