import DashboardRefresh.Proofs.Board.Renumbering
import DashboardRefresh.Proofs.Board.Sweeps

/-!
# Grouped and ungrouped dashboards

Entries that are put into groups describe the same leaves as on their own, apart from their numbers
and headers. Two such dashboards are compared by their bare leaves, in the order of the entries: a
sweep by a clock that shows its instant does the same to each bare leaf in both of them, and sends
the same requests, if what is left to chance goes the same way for the same leaf. A sweep before the
epoch changes neither of them, but a group finds out that it cannot read the clock before its
children send anything, and a leaf of its own only afterwards.
-/

namespace DashboardRefresh

/-! ## Bare leaves -/

namespace Leaf

/-- The leaf without its number and its header. -/
def bare (l : Leaf) : Leaf := { l with base := { l.base with id := 0, hideHeader := false } }

/-- What a leaf shows, apart from its number and from whether its header is hidden. -/
def shown (l : Leaf) : List (String × Json) :=
  (Snapshot.members ⟨l.base, l.kind, l.content.data⟩).filter fun m =>
    m.1 ≠ "id" ∧ m.1 ≠ "hide_header"

variable {l : Leaf}

end Leaf

/-! ## Entries in groups -/

namespace WidgetConfig

/-- The entries of the leaves: those in a group, or the entry itself. -/
def parts : WidgetConfig → List WidgetConfig
  | leaf common content => [leaf common content]
  | group _ children => children

/-- The bare leaf that an entry describes, if it is the valid entry of one. -/
def bareLeaf? : WidgetConfig → Option Leaf
  | leaf common content =>
    (Content.ofConfig content).toOption.map fun built =>
      Leaf.bare ⟨WidgetBase.ofConfig 0 content.kind common, built⟩
  | group .. => none

end WidgetConfig

theorem Leaf.build_bare (last : Nat) (common : CommonConfig) (content : LeafConfig) :
    (Leaf.build last common content).result.toOption.map Leaf.bare =
      (WidgetConfig.leaf common content).bareLeaf? := by
  unfold Leaf.build WidgetConfig.bareLeaf?
  dsimp only
  cases Content.ofConfig content <;> rfl

/-- The children of a group are the leaves that their entries describe. -/
theorem Group.buildChildren_bare (last position : Nat) (configs : List WidgetConfig) :
    (buildChildren last position configs).result.toOption.map (·.map Leaf.bare) =
      configs.mapM WidgetConfig.bareLeaf? := by
  induction configs generalizing last position with
  | nil => rfl
  | cons c rest ih =>
    rw [List.mapM_cons]
    cases c with
    | group => rfl
    | leaf common content =>
      rw [← Leaf.build_bare last]
      unfold buildChildren
      dsimp only
      split
      · rename_i fault hfault
        rw [hfault]
        rfl
      · rename_i l hl
        rw [hl, ← ih (Leaf.build last common content).last (position + 1)]
        cases (buildChildren (Leaf.build last common content).last (position + 1) rest).result <;>
          rfl

theorem Widget.build_bare (last : Nat) (c : WidgetConfig) :
    (Widget.build last c).result.toOption.map (·.leaves.map Leaf.bare) =
      c.parts.mapM WidgetConfig.bareLeaf? := by
  cases c with
  | leaf common content =>
    have hbuild := Leaf.build_bare last common content
    unfold build WidgetConfig.parts
    rw [List.mapM_cons, ← hbuild]
    dsimp only
    cases (Leaf.build last common content).result <;> rfl
  | group common children =>
    have hbuild := Group.buildChildren_bare (last + 1) 0 children
    unfold build WidgetConfig.parts
    rw [← hbuild]
    dsimp only
    cases (Group.buildChildren (last + 1) 0 children).result <;> rfl

theorem Widget.isDue_leaf (l : Leaf) (now : Instant) : (Widget.leaf l).isDue now = l.isDue now := by
  simp [isDue, leaves]

namespace Dashboard

variable {d g : Dashboard} {s : Surroundings} {now : Instant}

/-- A sweep by a clock that shows its instant updates each leaf that is due. -/
theorem updateDue_eq_updateIfDue (hs : s.Shows now) (w : Widget) :
    (updateDue s now w).widget = w.mapLeaves (fun l => (l.updateIfDue s now).leaf) ∧
      (updateDue s now w).sent = w.leaves.flatMap fun l => (l.updateIfDue s now).sent := by
  have hpicks : ∀ l ∈ w.leaves, w.picksIn now now l = l.isDue now := fun l hl =>
    Widget.picksIn_eq_isDue (fun _ _ _ => rfl) hl
  have heq : (updateDue s now w).widget =
        w.mapLeaves (fun l => if w.picksIn now now l then (l.update s).leaf else l) ∧
      (updateDue s now w).sent =
        w.leaves.flatMap fun l => if w.picksIn now now l then (l.update s).sent else [] :=
    updateDue_eq hs w
  rw [heq.1, heq.2]
  constructor
  · apply Widget.mapLeaves_congr
    intro l hl
    rw [hpicks l hl, Leaf.updateIfDue]
    split <;> rfl
  · apply List.flatMap_congr
    intro l hl
    rw [hpicks l hl, Leaf.updateIfDue]
    split <;> rfl

theorem sweepIn_leaves (hs : s.Shows now) (d : Dashboard) :
    (d.sweepIn s now).dashboard.leaves = d.leaves.map fun l => (l.updateIfDue s now).leaf := by
  unfold sweepIn leaves
  dsimp only
  rw [List.map_map, List.flatMap_map, List.map_flatMap]
  apply List.flatMap_congr
  intro w _
  rw [Function.comp_apply, (updateDue_eq_updateIfDue hs w).1, Widget.leaves_mapLeaves]

theorem sweepIn_sent (hs : s.Shows now) (d : Dashboard) :
    (d.sweepIn s now).sent = d.leaves.flatMap fun l => (l.updateIfDue s now).sent := by
  unfold sweepIn leaves
  dsimp only
  rw [List.flatMap_map, List.flatMap_assoc]
  exact List.flatMap_congr fun w _ => (updateDue_eq_updateIfDue hs w).2

/-- All widgets are leaves. -/
def IsFlat (d : Dashboard) : Prop := d.widgets = d.leaves.map .leaf

theorem IsFlat.sweepIn (hd : d.IsFlat) (hs : s.Shows now) : (d.sweepIn s now).dashboard.IsFlat := by
  unfold IsFlat
  rw [sweepIn_leaves hs, List.map_map]
  unfold Dashboard.sweepIn
  dsimp only
  rw [List.map_map, hd, List.map_map]
  apply List.map_congr_left
  intro l _
  exact (updateDue_eq_updateIfDue hs (.leaf l)).1

/-- Whatever the clock shows, leaves of their own send their requests when they are due. -/
theorem IsFlat.sweepIn_sent (hd : d.IsFlat) (s : Surroundings) (now : Instant) :
    (d.sweepIn s now).sent = d.leaves.flatMap fun l => (l.updateIfDue s now).sent := by
  unfold Dashboard.sweepIn
  dsimp only
  rw [hd, List.map_map, List.flatMap_map]
  apply List.flatMap_congr
  intro l _
  rw [Function.comp_apply, updateDue, Widget.isDue_leaf, Leaf.updateIfDue]
  split <;> rfl

/-- Before the clock can be read, the leaves in groups send nothing. -/
theorem sweepIn_sent_sublist {e : OutOfRange} (hread : s.clock.read = .error e) (d : Dashboard)
    (now : Instant) :
    ((d.sweepIn s now).sent).Sublist (d.leaves.flatMap fun l => (l.updateIfDue s now).sent) := by
  have hwidget (w : Widget) : (updateDue s now w).sent.Sublist
      (w.leaves.flatMap fun l => (l.updateIfDue s now).sent) := by
    cases w with
    | leaf l =>
      rw [updateDue, Widget.isDue_leaf, Widget.leaves, List.flatMap_singleton, Leaf.updateIfDue]
      split <;> exact List.Sublist.refl _
    | group base children =>
      have hnone : (updateDue s now (.group base children)).sent = [] := by
        rw [updateDue]
        split
        · rw [Widget.update, Group.update, hread]
        · rfl
      rw [hnone]
      exact List.nil_sublist _
  unfold sweepIn leaves
  dsimp only
  rw [List.flatMap_map, List.flatMap_assoc]
  induction d.widgets with
  | nil => exact List.Sublist.refl _
  | cons w ws ih => exact (hwidget w).append ih

/-! ## Runs -/

/-- The events of a punctual run: sweeps by a clock that shows their instants, fifteen days inside
the range, and the beginning of the shutdown, between sweeps or during one. -/
def Event.IsOnTime : Event → Prop
  | sweep c now | sweepIntoShutdown c now _ =>
    c.clock = .setTo now ∧ now.IsInner ∧ IsZoneOffset c.offset
  | shutdown => True
  | overlap .. => False

/-- The instant of a sweep. -/
def Event.instant? : Event → Option Instant
  | sweep _ now | sweepIntoShutdown _ now _ => some now
  | shutdown | overlap .. => none

/-- The requests that are sent during an event, those of overlapping sweeps apart. -/
def sent (d : Dashboard) : Event → List Request
  | .sweep c now => (d.sweep c now).sent
  | .sweepIntoShutdown c now millis => (d.sweepIntoShutdown c now millis).sent
  | .shutdown | .overlap .. => []

/-- The leaves of `g`, in groups or not, are those of `d`, of which none is in a group, apart from
their headers, and from their numbers, which `σ` makes those in `d`. -/
structure Groups (σ : Equiv.Perm Nat) (g d : Dashboard) : Prop where
  numbered_eq : g.leaves.map (Leaf.numbered σ) = d.leaves.map (Leaf.numbered (Equiv.refl Nat))
  isFlat : d.IsFlat
  requestTimeout_eq : g.requestTimeout = d.requestTimeout
  cancelled_eq : g.cancelled = d.cancelled

variable {σ : Equiv.Perm Nat}

theorem shows_renumber (hs : s.Shows now) (σ : Equiv.Perm Nat) : (s.renumber σ).Shows now :=
  ⟨hs.read_eq, hs.isInner, hs.isZone⟩

theorem map_numbered_updateIfDue (σ : Equiv.Perm Nat) (ls : List Leaf) (s : Surroundings)
    (now : Instant) :
    (ls.map fun l => (l.updateIfDue (s.renumber σ) now).leaf).map (Leaf.numbered σ) =
      (ls.map (Leaf.numbered σ)).map fun l => (l.updateIfDue s now).leaf := by
  simp only [List.map_map]
  apply List.map_congr_left
  intro l _
  simp [l.updateIfDue_numbered σ s now]

theorem flatMap_numbered_updateIfDue (σ : Equiv.Perm Nat) (ls : List Leaf) (s : Surroundings)
    (now : Instant) : (ls.flatMap fun l => (l.updateIfDue (s.renumber σ) now).sent) =
      (ls.map (Leaf.numbered σ)).flatMap fun l => (l.updateIfDue s now).sent := by
  rw [List.flatMap_map]
  apply List.flatMap_congr
  intro l _
  rw [l.updateIfDue_numbered σ s now]

namespace Groups

theorem surroundings_eq (h : Groups σ g d) (c : Conditions) :
    g.surroundings (c.renumber σ) = (d.surroundings c).renumber σ := by
  unfold surroundings
  rw [h.requestTimeout_eq, h.cancelled_eq]
  rfl

/-- The requests that the leaves send when they are updated are the same. -/
theorem flatMap_sent_eq (h : Groups σ g d) (s : Surroundings) (now : Instant) :
    (g.leaves.flatMap fun l => (l.updateIfDue (s.renumber σ) now).sent) =
      d.leaves.flatMap fun l => (l.updateIfDue s now).sent := by
  rw [flatMap_numbered_updateIfDue, h.numbered_eq, ← flatMap_numbered_updateIfDue,
    Surroundings.renumber_refl]

theorem sweepIn (h : Groups σ g d) (hclock : s.clock = .setTo now) (hnow : now.IsInner)
    (hzone : IsZoneOffset s.offset) :
    Groups σ (g.sweepIn (s.renumber σ) now).dashboard (d.sweepIn s now).dashboard := by
  rcases lt_or_ge now.nanos 0 with hepoch | hepoch
  · have hread : s.clock.read = .error .outOfRange := hclock ▸ Clock.read_setTo_of_neg hepoch
    have hread' : (s.renumber σ).clock.read = .error .outOfRange := hread
    rw [sweepIn_dashboard_of_read_eq_error hread, sweepIn_dashboard_of_read_eq_error hread']
    exact h
  · have hs : s.Shows now := ⟨hclock ▸ Clock.read_setTo hepoch, hnow, hzone⟩
    refine ⟨?_, h.isFlat.sweepIn hs, h.requestTimeout_eq, h.cancelled_eq⟩
    rw [sweepIn_leaves hs, sweepIn_leaves (shows_renumber hs σ), map_numbered_updateIfDue,
      h.numbered_eq, ← map_numbered_updateIfDue, Surroundings.renumber_refl]

/-- No event tells the two dashboards apart, with its choices renumbered for the first. -/
theorem after (h : Groups σ g d) {e : Event} (he : e.IsOnTime) :
    Groups σ (g.after (e.renumber σ)) (d.after e) := by
  cases e with
  | sweep c now =>
    obtain ⟨hclock, hnow, hzone⟩ := he
    change Groups σ (g.sweepIn (g.surroundings (c.renumber σ)) now).dashboard _
    rw [h.surroundings_eq]
    exact h.sweepIn hclock hnow hzone
  | sweepIntoShutdown c now millis =>
    obtain ⟨hclock, hnow, hzone⟩ := he
    simp only [Event.renumber, Dashboard.after, sweepIntoShutdown, h.surroundings_eq,
      h.cancelled_eq]
    have hswept := h.sweepIn (s := { d.surroundings c with
      cancellation := if d.cancelled then .before else .atMillis millis }) hclock hnow hzone
    exact { hswept with cancelled_eq := rfl }
  | shutdown => exact { h with cancelled_eq := rfl }
  | overlap => exact he.elim

theorem run (h : Groups σ g d) {events : List Event} (hevents : ∀ e ∈ events, e.IsOnTime) :
    Groups σ (g.run (events.map (·.renumber σ))) (d.run events) := by
  induction events generalizing g d with
  | nil => exact h
  | cons e events ih =>
    exact ih (h.after (hevents e List.mem_cons_self)) fun e' he' =>
      hevents e' (List.mem_cons_of_mem e he')

theorem sweepIn_sent_eq (h : Groups σ g d) (hs : s.Shows now) :
    (g.sweepIn (s.renumber σ) now).sent = (d.sweepIn s now).sent := by
  rw [sweepIn_sent hs, sweepIn_sent (shows_renumber hs σ), h.flatMap_sent_eq]

theorem sweepIn_sent_sublist (h : Groups σ g d) (hclock : s.clock = .setTo now)
    (hnow : now.IsInner) (hzone : IsZoneOffset s.offset) :
    (g.sweepIn (s.renumber σ) now).sent.Sublist (d.sweepIn s now).sent := by
  rcases lt_or_ge now.nanos 0 with hepoch | hepoch
  · have hread : (s.renumber σ).clock.read = .error .outOfRange :=
      (congrArg Clock.read hclock).trans (Clock.read_setTo_of_neg hepoch)
    rw [h.isFlat.sweepIn_sent, ← h.flatMap_sent_eq]
    exact Dashboard.sweepIn_sent_sublist hread g now
  · rw [h.sweepIn_sent_eq ⟨hclock ▸ Clock.read_setTo hepoch, hnow, hzone⟩]

/-- An event sends the same requests in both dashboards, unless it is a sweep before the epoch:
then those in groups are left out. -/
theorem sent_eq (h : Groups σ g d) {e : Event} (he : e.IsOnTime) :
    (g.sent (e.renumber σ)).Sublist (d.sent e) ∧
      ((∀ now ∈ e.instant?, 0 ≤ now.nanos) → g.sent (e.renumber σ) = d.sent e) := by
  cases e with
  | sweep c now =>
    obtain ⟨hclock, hnow, hzone⟩ := he
    change (g.sweepIn (g.surroundings (c.renumber σ)) now).sent.Sublist _ ∧
      (_ → (g.sweepIn (g.surroundings (c.renumber σ)) now).sent = _)
    rw [h.surroundings_eq]
    refine ⟨h.sweepIn_sent_sublist hclock hnow hzone, fun hepoch => h.sweepIn_sent_eq ?_⟩
    exact ⟨(congrArg Clock.read hclock).trans (Clock.read_setTo (hepoch now rfl)), hnow, hzone⟩
  | sweepIntoShutdown c now millis =>
    obtain ⟨hclock, hnow, hzone⟩ := he
    simp only [Event.renumber, sent, sweepIntoShutdown, h.surroundings_eq, h.cancelled_eq]
    let s : Surroundings := { d.surroundings c with
      cancellation := if d.cancelled then .before else .atMillis millis }
    refine ⟨h.sweepIn_sent_sublist (s := s) hclock hnow hzone, fun hepoch =>
      h.sweepIn_sent_eq (s := s) ?_⟩
    exact ⟨(congrArg Clock.read hclock).trans (Clock.read_setTo (hepoch now rfl)), hnow, hzone⟩
  | shutdown => exact ⟨List.Sublist.refl _, fun _ => rfl⟩
  | overlap => exact he.elim

end Groups

/-! ## Grouped configurations -/

theorem settings_of_ofConfig {c : DashboardConfig} (h : ofConfig c = .ok d) :
    d.requestTimeout = c.requestTimeout ∧ d.cancelled = false := by
  obtain ⟨_, _, rfl⟩ := exists_of_map_eq_ok h
  exact ⟨rfl, rfl⟩

end Dashboard

end DashboardRefresh
