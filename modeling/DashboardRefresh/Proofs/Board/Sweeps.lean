import DashboardRefresh.Proofs.Board.UpdateCycle
import DashboardRefresh.Proofs.Widget.DueLeaves

/-!
# What a sweep updates

A sweep finds out by its own instant which widgets are due, and a group finds out by the clock which
of its children are. So a sweep updates the leaves that are due at its instant if they stand alone,
but of the children of a group that is due those that are due by the clock. The two are the same
whenever the clock and the instant agree on the children.
-/

namespace DashboardRefresh

namespace Leaf

/-- What a leaf is known by: its number, its title and its kind. -/
def face (l : Leaf) : Nat × String × WidgetKind := (l.base.id, l.base.title, l.kind)

variable {l : Leaf} {s : Surroundings} {time : Instant}

theorem WellFormed.face_update (hl : l.WellFormed) (hs : s.Shows time) :
    (l.update s).leaf.face = l.face := by
  by_cases hkind : l.kind = .html
  · rw [update_of_html hkind]
    rfl
  · obtain ⟨c, hcycle, hupdate⟩ := update_eq_reported hkind hs
    have hsame := reported_kind (Content.cycle_completes hl.isValid hcycle) s.offset time
    rw [hupdate]
    unfold face
    dsimp only
    rw [hsame]
    rfl

end Leaf

namespace Widget

/-- What a widget and its leaves are known by. -/
def face (w : Widget) : (Nat × String × WidgetKind) × List (Nat × String × WidgetKind) :=
  ((w.base.id, w.base.title, w.kind), w.leaves.map (·.face))

theorem face_mapLeaves {f : Leaf → Leaf} {w : Widget} (hf : ∀ l ∈ w.leaves, (f l).face = l.face) :
    (w.mapLeaves f).face = w.face := by
  cases w with
  | leaf l =>
    have hl : (f l).face = l.face := hf l (List.mem_singleton_self l)
    have hbase : ((f l).base.id, (f l).base.title, (f l).kind) =
        (l.base.id, l.base.title, l.kind) := hl
    simp [mapLeaves, face, base, kind, leaves, hl, hbase]
  | group base children =>
    simp only [mapLeaves, face, Widget.base, kind, leaves, List.map_map]
    congr 1
    exact List.map_congr_left hf

theorem mapLeaves_congr {f g : Leaf → Leaf} {w : Widget} (h : ∀ l ∈ w.leaves, f l = g l) :
    w.mapLeaves f = w.mapLeaves g := by
  cases w with
  | leaf l => exact congrArg leaf (h l (List.mem_singleton_self l))
  | group base children => exact congrArg (group base) (List.map_congr_left h)

/-- An update under a clock that cannot be read changes nothing. -/
theorem update_widget_of_read_eq_error {s : Surroundings} {e : OutOfRange}
    (h : s.clock.read = .error e) (w : Widget) : (w.update s).widget = w := by
  cases w with
  | leaf l => exact congrArg leaf (Leaf.update_leaf_of_read_eq_error h)
  | group base children =>
    have hchildren : (Group.update s children).1 = children := by
      unfold Group.update
      rw [h]
    exact congrArg (group base) hchildren

/-- A sweep at `now` while the clock shows `time` updates the leaf of the widget. -/
def picksIn (now time : Instant) (w : Widget) (l : Leaf) : Bool := w.isDue now && w.picks time l

/-- It does so exactly if the leaf is due at `now`, if instant and clock agree on the children of a
group. -/
theorem picksIn_eq_isDue {now time : Instant} {w : Widget}
    (hagree : w.kind = .group → ∀ l ∈ w.leaves, l.isDue time = l.isDue now) {l : Leaf}
    (hl : l ∈ w.leaves) : w.picksIn now time l = l.isDue now := by
  cases w with
  | leaf k =>
    obtain rfl := List.mem_singleton.1 hl
    simp [picksIn, isDue, picks, leaves]
  | group base children =>
    have hsame : l.isDue time = l.isDue now := hagree rfl l hl
    simp only [picksIn, picks, hsame, Bool.and_eq_right_iff_imp]
    exact fun hdue => List.any_eq_true.2 ⟨l, hl, hdue⟩

end Widget

/-- The sweep of `d` gives an update to the chosen leaves and to no others: each of them has one
outcome reported at `time`, the others stay as they are and send nothing, and no widget changes its
place or what it is known by. -/
structure Sweep.Updates (d : Dashboard) (s : Surroundings) (time : Instant)
    (chosen : Widget → Leaf → Bool) (swept : Sweep) : Prop where
  dashboard_eq : swept.dashboard =
    { d with
      widgets := d.widgets.map fun w =>
        w.mapLeaves fun l => if chosen w l then (l.update s).leaf else l }
  sent_eq : swept.sent =
    d.widgets.flatMap fun w =>
      w.leaves.flatMap fun l => if chosen w l then (l.update s).sent else []
  reportsOnce : ∀ w ∈ d.widgets, ∀ l ∈ w.leaves, chosen w l →
    ∃ outcome, l.ReportsOnce s time outcome (l.update s).leaf
  faces_eq : swept.dashboard.widgets.map (·.face) = d.widgets.map (·.face)

/-- It is enough to choose among the leaves of the dashboard. -/
theorem Sweep.Updates.congr {d : Dashboard} {s : Surroundings} {time : Instant}
    {chosen chosen' : Widget → Leaf → Bool} {swept : Sweep} (h : swept.Updates d s time chosen)
    (hchosen : ∀ w ∈ d.widgets, ∀ l ∈ w.leaves, chosen w l = chosen' w l) :
    swept.Updates d s time chosen' where
  dashboard_eq := by
    rw [h.dashboard_eq]
    congr 1
    apply List.map_congr_left
    intro w hw
    apply Widget.mapLeaves_congr
    intro l hl
    rw [hchosen w hw l hl]
  sent_eq := by
    rw [h.sent_eq]
    apply List.flatMap_congr
    intro w hw
    apply List.flatMap_congr
    intro l hl
    rw [hchosen w hw l hl]
  reportsOnce w hw l hl hpicks := h.reportsOnce w hw l hl ((hchosen w hw l hl).trans hpicks)
  faces_eq := h.faces_eq

namespace Dashboard

variable {d : Dashboard} {c : Conditions} {now time : Instant}

theorem surroundings_isSettled (d : Dashboard) (c : Conditions) :
    (d.surroundings c).IsSettled := by
  unfold Surroundings.IsSettled surroundings
  cases d.cancelled
  · exact .inl rfl
  · exact .inr rfl

/-- A sweep changes the leaves that it picks, and sends their requests. -/
theorem updateDue_eq {s : Surroundings} (hs : s.Shows time) (w : Widget) :
    (updateDue s now w).widget =
        w.mapLeaves (fun l => if w.picksIn now time l then (l.update s).leaf else l) ∧
      (updateDue s now w).sent =
        w.leaves.flatMap fun l => if w.picksIn now time l then (l.update s).sent else [] := by
  unfold updateDue Widget.picksIn
  cases hdue : w.isDue now with
  | true => simpa using w.update_eq hs
  | false => cases w <;> simp [Widget.mapLeaves]

/-- A sweep under a clock that can be read updates the leaves that it picks. -/
theorem IsReachable.sweep_updates (hd : d.IsReachable) (hs : (d.surroundings c).Shows time)
    (now : Instant) :
    (d.sweep c now).Updates d (d.surroundings c) time fun w l => w.picksIn now time l := by
  have hwidgets : (d.sweep c now).dashboard.widgets = d.widgets.map fun w =>
      w.mapLeaves fun l =>
        if w.picksIn now time l then (l.update (d.surroundings c)).leaf else l := by
    unfold sweep sweepIn
    dsimp only
    rw [List.map_map]
    exact List.map_congr_left fun w _ => (updateDue_eq hs w).1
  refine ⟨?_, ?_, ?_, ?_⟩
  · rw [← hwidgets]
    rfl
  · unfold sweep sweepIn
    dsimp only
    rw [List.flatMap_map]
    exact List.flatMap_congr fun w _ => (updateDue_eq hs w).2
  · intro w hw l hl hpicks
    have hwell := hd.wellFormed w hw l hl
    have hkind : l.kind ≠ .html := by
      cases w with
      | leaf k =>
        obtain rfl := List.mem_singleton.1 hl
        have hdue : l.isDue now := by simpa [Widget.picksIn, Widget.isDue, Widget.leaves] using
          (Bool.and_eq_true_iff.1 hpicks).1
        exact hwell.kind_ne_of_isDue hdue
      | group => exact hwell.kind_ne_of_isDue (Bool.and_eq_true_iff.1 hpicks).2
    exact hwell.reportsOnce hkind hs (d.surroundings_isSettled c)
  · rw [hwidgets, List.map_map]
    apply List.map_congr_left
    intro w hw
    apply Widget.face_mapLeaves
    intro l hl
    split
    · exact (hd.wellFormed w hw l hl).face_update hs
    · rfl

/-- A sweep of a dashboard in which nothing is due does nothing. -/
theorem sweep_of_not_due (h : ∀ w ∈ d.widgets, w.isDue now = false) (c : Conditions) :
    d.sweep c now = ⟨d, 0, [], 0⟩ := by
  have hupdates : d.widgets.map (updateDue (d.surroundings c) now) =
      d.widgets.map fun w => ⟨w, [], 0⟩ := by
    apply List.map_congr_left
    intro w hw
    rw [updateDue, h w hw]
    rfl
  have hcount : d.widgets.countP (·.isDue now) = 0 := by
    rw [List.countP_eq_zero]
    intro w hw
    rw [h w hw]
    exact Bool.false_ne_true
  have hwaited (n : Nat) : (List.replicate n 0).foldl max 0 = 0 := by
    induction n with
    | zero => rfl
    | succ n ih => exact ih
  unfold sweep sweepIn
  dsimp only
  rw [hupdates, hcount]
  simp [Function.comp_def, hwaited]

/-- After a sweep nothing is due at its instant any more, if the clock shows no earlier time. -/
theorem IsReachable.not_due_after_sweep (hd : d.IsReachable) (hs : (d.surroundings c).Shows time)
    (hle : now ≤ time) : ∀ w ∈ (d.sweep c now).dashboard.widgets, w.isDue now = false := by
  intro w' hw'
  unfold sweep sweepIn at hw'
  dsimp only at hw'
  rw [List.map_map] at hw'
  obtain ⟨w, hw, rfl⟩ := List.mem_map.1 hw'
  rw [Function.comp_apply, updateDue]
  split
  · exact Widget.WellFormed.isDue_update_eq_false (hd.wellFormed w hw) hs hle
  · rename_i hdue
    exact eq_false_of_ne_true hdue

/-- A sweep under a clock that cannot be read changes nothing. -/
theorem sweepIn_dashboard_of_read_eq_error {s : Surroundings} {e : OutOfRange}
    (hread : s.clock.read = .error e) (now : Instant) : (d.sweepIn s now).dashboard = d := by
  have hsame : d.widgets.map (fun w => (updateDue s now w).widget) = d.widgets := by
    apply List.map_id''
    intro w
    unfold updateDue
    split
    · exact w.update_widget_of_read_eq_error hread
    · rfl
  unfold sweepIn
  dsimp only
  rw [List.map_map]
  exact congrArg (fun widgets => { d with widgets }) hsame

theorem sweep_dashboard_of_read_eq_error {e : OutOfRange}
    (hread : (d.surroundings c).clock.read = .error e) (now : Instant) :
    (d.sweep c now).dashboard = d :=
  sweepIn_dashboard_of_read_eq_error hread now

/-- A sweep at `now` of a reachable dashboard, by a clock that shows `time`, updates the leaves that
are due at `now` if they stand alone, and those that are due at `time` of the groups that are due at
`now`. These are just the leaves that are due at `now` if no child of a group is due at one of the
two and not at the other. Before the epoch a sweep changes nothing. -/
theorem sweep_updates_picked (hd : d.IsReachable) (hclock : c.clock.IsInner)
    (hzone : IsZoneOffset c.offset) (now : Instant) :
    (0 ≤ c.clock.nanos → ∃ time, time.nanos = c.clock.nanos ∧
        (d.sweep c now).Updates d (d.surroundings c) time (fun w l => w.picksIn now time l) ∧
        ((∀ w ∈ d.widgets, w.kind = .group → ∀ l ∈ w.leaves, l.isDue time = l.isDue now) →
          (d.sweep c now).Updates d (d.surroundings c) time fun _ l => l.isDue now)) ∧
      (c.clock.nanos < 0 → (d.sweep c now).dashboard = d) := by
  constructor
  · intro hepoch
    obtain ⟨time, hs, hnanos⟩ :=
      Surroundings.exists_shows (s := d.surroundings c) hclock hepoch hzone
    have hupdates := hd.sweep_updates hs now
    refine ⟨time, hnanos, hupdates, fun hagree => hupdates.congr ?_⟩
    intro w hw l hl
    exact Widget.picksIn_eq_isDue (hagree w hw) hl
  · intro hbefore
    have hread : (d.surroundings c).clock.read = .error .outOfRange := if_pos hbefore
    exact sweep_dashboard_of_read_eq_error hread now

/-- A sweep at the epoch finds everything due in an almanac, whatever later time the clock shows. -/
theorem sweep_updates_picked_almanac :
    ∃ d, ofConfig almanac = .ok d ∧ d.IsReachable ∧
      let c : Conditions := ⟨⟨60000000000⟩, 0, .unreachable, fun _ => true⟩
      ∃ time, time.nanos = 60000000000 ∧
        (d.sweep c .epoch).Updates d (d.surroundings c) time (fun _ l => l.isDue .epoch) ∧
        (d.sweep c .epoch).dashboard.widgets.map
            (·.leaves.map fun l => l.base.refresh.lastUpdated.map (·.nanos)) =
          [[some 60000000000], [none, none]] := by
  obtain ⟨d, hd⟩ : ∃ d, ofConfig almanac = .ok d := ⟨_, rfl⟩
  have hreachable : d.IsReachable := isReachable_run hd []
  obtain ⟨hpicked, _⟩ := sweep_updates_picked hreachable
    (c := ⟨⟨60000000000⟩, 0, .unreachable, fun _ => true⟩) (by decide) (by decide) .epoch
  obtain ⟨time, hnanos, _, hupdates⟩ := hpicked (by decide)
  cases hd
  refine ⟨_, rfl, hreachable, time, hnanos, hupdates ?_, rfl⟩
  intro w hw hkind l hl
  cases hw with
  | head => cases hkind
  | tail _ hw =>
    obtain rfl := List.mem_singleton.1 hw
    -- Neither the note nor the API depends on the time: one is never due, the other at once.
    cases hl with
    | head => rfl
    | tail _ hl =>
      obtain rfl := List.mem_singleton.1 hl
      rfl

/-- A group of a calendar. -/
def agenda : DashboardConfig :=
  let common : CommonConfig := ⟨none, none, false, none, none⟩
  { tickInterval := .ofSeconds 1
    requestTimeout := .ofSeconds 10
    widgets := [.group common [.leaf common (.calendar false)]] }

/-- The calendar is due again one hour after the epoch. A sweep at two o'clock by a clock that shows
one minute past midnight counts the group as updated, but does not update the calendar. -/
theorem sweep_leaves_due_child :
    ∃ d, ofConfig agenda = .ok d ∧
      let later := d.run [firstSweep]
      let c : Conditions := ⟨⟨60000000000⟩, 0, .unreachable, fun _ => true⟩
      let now : Instant := ⟨7200000000000, by decide, by decide⟩
      later.IsReachable ∧ c.clock.IsInner ∧ now.IsInner ∧ IsZoneOffset c.offset ∧
        (later.sweep c now).dispatched = 1 ∧
        ¬ ∃ time, (later.sweep c now).Updates later (later.surroundings c) time
          fun _ l => l.isDue now := by
  obtain ⟨d, hd⟩ : ∃ d, ofConfig agenda = .ok d := ⟨_, rfl⟩
  have hreachable : (d.run [firstSweep]).IsReachable := isReachable_run hd [firstSweep]
  cases hd
  refine ⟨_, rfl, hreachable, by decide, by decide, by decide, rfl, ?_⟩
  rintro ⟨time, hupdates⟩
  have hupdated := congrArg
    (·.widgets.map (·.leaves.map fun l => l.base.refresh.lastUpdated.map (·.nanos)))
    hupdates.dashboard_eq
  have hnever : ([[some 0]] : List (List (Option Int))) = [[some 60000000000]] := hupdated
  exact absurd hnever (by decide)

end Dashboard

end DashboardRefresh
