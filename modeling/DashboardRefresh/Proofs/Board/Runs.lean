import DashboardRefresh.Board.Overlap
import DashboardRefresh.Proofs.Widget.Reachable

/-!
# Runs of a dashboard

A dashboard changes by sweeps, one after the other or several at once, and by the beginning of its
shutdown, between sweeps or during one. Whatever happens, its widgets stay in their places and
change by updates of their leaves only.
-/

namespace DashboardRefresh

namespace Dashboard

/-- What happens to a dashboard. -/
inductive Event where
  | sweep (c : Conditions) (now : Instant)
  /-- The shutdown begins while no widget is updated. -/
  | shutdown
  /-- The shutdown begins during a sweep, some milliseconds after its start. -/
  | sweepIntoShutdown (c : Conditions) (now : Instant) (millis : Nat)
  /-- Sweeps that are under way at once, up to some step. -/
  | overlap (now : Instant) (sweeps : Nat) (steps : List Overlap.Step)

/-- All updates of the event meet a clock that lies fifteen days inside the range of instants. -/
def Event.IsInner : Event → Prop
  | sweep c _ | sweepIntoShutdown c _ _ => c.clock.IsInner
  | shutdown => True
  | overlap _ _ steps => ∀ step ∈ steps, ∀ widget s, step = .finish widget s → s.IsInner

/-- All updates of the event meet a clock that is `allowed`. -/
def Event.Meets (allowed : Clock → Prop) : Event → Prop
  | sweep c _ | sweepIntoShutdown c _ _ => allowed c.clock
  | shutdown => True
  | overlap _ _ steps => ∀ step ∈ steps, ∀ widget s, step = .finish widget s → allowed s.clock

theorem Event.isInner_iff (e : Event) : e.IsInner ↔ e.Meets Clock.IsInner := by
  cases e <;> rfl

/-- The dashboard after an event. -/
def after (d : Dashboard) : Event → Dashboard
  | .sweep c now => (d.sweep c now).dashboard
  | .shutdown => d.cancel
  | .sweepIntoShutdown c now millis => (d.sweepIntoShutdown c now millis).dashboard
  | .overlap now sweeps steps =>
    { d with
      widgets := ((Overlap.State.initial d.widgets sweeps).run now steps).slots.map (·.widget) }

def run (d : Dashboard) (events : List Event) : Dashboard := events.foldl after d

theorem run_append (d : Dashboard) (earlier later : List Event) :
    d.run (earlier ++ later) = (d.run earlier).run later := List.foldl_append

end Dashboard

/-- Each widget in the second list is the one at its place in the first, after some updates. -/
abbrev WidgetsReach (allowed : Surroundings → Prop) : List Widget → List Widget → Prop :=
  List.Forall₂ (Widget.Reaches allowed)

variable {allowed : Surroundings → Prop} {s : Surroundings}

theorem WidgetsReach.refl (widgets : List Widget) : WidgetsReach allowed widgets widgets :=
  List.forall₂_same.2 fun w _ => .refl w

theorem WidgetsReach.trans {us vs ws : List Widget} (huv : WidgetsReach allowed us vs)
    (hvw : WidgetsReach allowed vs ws) : WidgetsReach allowed us ws :=
  forall₂_trans (R := Widget.Reaches allowed) (fun _ _ _ => .trans) huv hvw

namespace Overlap

/-- One step of overlapping sweeps leaves every widget alone or updates it. -/
theorem State.step_reaches (now : Instant) (st : State) (step : Step)
    (hstep : ∀ widget s, step = .finish widget s → allowed s) :
    WidgetsReach allowed (st.slots.map (·.widget)) ((st.step now step).slots.map (·.widget)) := by
  have hset (i : Nat) (slot slot' : Slot) (hi : st.slots[i]? = some slot)
      (h : slot.widget.Reaches allowed slot'.widget) :
      WidgetsReach allowed (st.slots.map (·.widget))
        ((st.slots.set i slot').map (·.widget)) := by
    refine List.forall₂_iff_get.2 ⟨by simp, fun j hj hj' => ?_⟩
    obtain ⟨hlt, rfl⟩ := List.getElem?_eq_some_iff.1 hi
    simp only [List.get_eq_getElem, List.getElem_map, List.getElem_set]
    split
    · rename_i heq
      subst heq
      exact h
    · exact .refl _
  cases step with
  | visit sweep =>
    change WidgetsReach allowed _ ((st.visit now sweep).slots.map (·.widget))
    unfold State.visit
    split
    · exact .refl _
    · split
      · exact .refl _
      · rename_i slot hslot
        split
        · exact hset _ slot _ hslot (.refl _)
        · exact .refl _
  | finish widget s =>
    change WidgetsReach allowed _ ((st.finish widget s).slots.map (·.widget))
    unfold State.finish
    split
    · exact .refl _
    · rename_i slot hslot
      split
      · exact hset widget slot _ hslot (slot.widget.reaches_update (hstep widget s rfl))
      · exact .refl _

/-- So does any number of steps. -/
theorem State.run_reaches (now : Instant) (st : State) (steps : List Step)
    (hsteps : ∀ step ∈ steps, ∀ widget s, step = .finish widget s → allowed s) :
    WidgetsReach allowed (st.slots.map (·.widget)) ((st.run now steps).slots.map (·.widget)) := by
  induction steps generalizing st with
  | nil => exact .refl _
  | cons step steps ih =>
    have hfirst := st.step_reaches now step (hsteps step List.mem_cons_self)
    have hrest := ih (st.step now step) fun other hother =>
      hsteps other (List.mem_cons_of_mem step hother)
    exact hfirst.trans hrest

end Overlap

namespace Dashboard

/-- A sweep updates some widgets and leaves the others alone. -/
theorem sweepIn_reaches (d : Dashboard) (hs : allowed s) (now : Instant) :
    WidgetsReach allowed d.widgets (d.sweepIn s now).dashboard.widgets := by
  have hwidgets : (d.sweepIn s now).dashboard.widgets =
      d.widgets.map fun w => (updateDue s now w).widget := by
    simp [sweepIn]
  rw [hwidgets]
  refine List.forall₂_map_right_iff.2 (List.forall₂_same.2 fun w _ => ?_)
  unfold updateDue
  split
  · exact w.reaches_update hs
  · exact .refl w

/-- An event of which all updates meet an allowed clock reaches every widget by such updates. -/
theorem after_reaches (d : Dashboard) {allowed : Clock → Prop} {e : Event} (he : e.Meets allowed) :
    WidgetsReach (fun s => allowed s.clock) d.widgets (d.after e).widgets := by
  cases e with
  | sweep c now =>
    have hs : allowed (d.surroundings c).clock := he
    exact d.sweepIn_reaches hs now
  | shutdown => exact .refl _
  | sweepIntoShutdown c now millis =>
    have hs (cancellation : Cancellation) :
        allowed { d.surroundings c with cancellation }.clock := he
    exact d.sweepIn_reaches (hs _) now
  | overlap now sweeps steps =>
    have hrun := (Overlap.State.initial d.widgets sweeps).run_reaches now steps he
    have hinitial : (Overlap.State.initial d.widgets sweeps).slots.map (·.widget) = d.widgets := by
      simp [Overlap.State.initial, Function.comp_def]
    rwa [hinitial] at hrun

/-- Whatever happens to a dashboard, its widgets change by updates of their leaves only. -/
theorem run_reaches_meeting (d : Dashboard) {allowed : Clock → Prop} (events : List Event)
    (hevents : ∀ e ∈ events, e.Meets allowed) :
    WidgetsReach (fun s => allowed s.clock) d.widgets (d.run events).widgets := by
  induction events generalizing d with
  | nil => exact .refl _
  | cons e events ih =>
    have hfirst := d.after_reaches (hevents e List.mem_cons_self)
    have hrest := ih (d.after e) fun other hother => hevents other (List.mem_cons_of_mem e hother)
    exact hfirst.trans hrest

theorem run_reaches (d : Dashboard) (events : List Event) (hevents : ∀ e ∈ events, e.IsInner) :
    WidgetsReach Surroundings.IsInner d.widgets (d.run events).widgets :=
  d.run_reaches_meeting events fun e he => e.isInner_iff.1 (hevents e he)

end Dashboard

end DashboardRefresh
