import DashboardRefresh.Proofs.Board.Sweeps

/-!
# The pace of updates over whole runs

In a run of sweeps by a clock that shows their instants, a leaf is updated by the first sweep, and
after that by those sweeps that come after the limit that its last report set: the regular update
after a success, and the earlier of that and the retry after some failures. So it is not updated
sooner than that, and a leaf that fails is tried again 25 minutes after its last attempt at the
latest. Sweeps before the epoch change nothing.
-/

namespace DashboardRefresh

/-- The place of a leaf in a dashboard: that of its widget, and its own in the widget. -/
structure LeafPlace where
  widget : Nat
  leaf : Nat

namespace Dashboard

/-- The leaf at a place. -/
def leafAt? (d : Dashboard) (p : LeafPlace) : Option Leaf := do
  let w ← d.widgets[p.widget]?
  w.leaves[p.leaf]?

/-- The event is a sweep by a clock that shows its instant, fifteen days inside the range, or a
shutdown between sweeps. -/
def Event.IsPunctual : Event → Prop
  | sweep c now => c.clock = .setTo now ∧ now.IsInner ∧ IsZoneOffset c.offset
  | shutdown => True
  | sweepIntoShutdown .. | overlap .. => False

/-- The run updates the leaf at a place at its pace, and the reports of its updates are `h`. A sweep
updates the leaf if it is the first one or comes after the limit of the reports so far, and leaves
it as it is otherwise. -/
inductive PacedRun (built : Dashboard) (p : LeafPlace) (policy : CachePolicy) :
    List Event → History → Prop
  | nil : PacedRun built p policy [] []
  | shutdown {events : List Event} {h : History} (hrun : PacedRun built p policy events h)
      (hsame : (built.run (events ++ [.shutdown])).leafAt? p = (built.run events).leafAt? p) :
      PacedRun built p policy (events ++ [.shutdown]) h
  | beforeEpoch {events : List Event} {h : History} {c : Conditions} {now : Instant}
      (hrun : PacedRun built p policy events h) (hnow : now.nanos < 0)
      (hsame : (built.run (events ++ [.sweep c now])).leafAt? p = (built.run events).leafAt? p) :
      PacedRun built p policy (events ++ [.sweep c now]) h
  | updated {events : List Event} {h : History} {c : Conditions} {now : Instant} {l l' : Leaf}
      {outcome : Outcome} (hrun : PacedRun built p policy events h) (hnow : 0 ≤ now.nanos)
      (hlimit : h = [] ∨ ∃ limit, h.IsLimit policy limit ∧ limit < now)
      (hl : (built.run events).leafAt? p = some l) (hdue : l.isDue now)
      (hl' : (built.run (events ++ [.sweep c now])).leafAt? p = some l')
      (hreport : l.ReportsOnce ((built.run events).surroundings c) now outcome l') :
      PacedRun built p policy (events ++ [.sweep c now]) (h ++ [⟨outcome, c.offset, now⟩])
  | skipped {events : List Event} {h : History} {c : Conditions} {now limit : Instant} {l : Leaf}
      (hrun : PacedRun built p policy events h) (hnow : 0 ≤ now.nanos)
      (hlimit : h.IsLimit policy limit) (hle : now ≤ limit)
      (hl : (built.run events).leafAt? p = some l) (hdue : l.isDue now = false)
      (hl' : (built.run (events ++ [.sweep c now])).leafAt? p = some l) :
      PacedRun built p policy (events ++ [.sweep c now]) h

variable {config : DashboardConfig} {built d : Dashboard} {p : LeafPlace} {policy : CachePolicy}
  {c : Conditions} {now : Instant}

/-! ## Single sweeps -/

theorem Event.IsPunctual.shows (he : (Event.sweep c now).IsPunctual) (hnow : 0 ≤ now.nanos)
    (d : Dashboard) : (d.surroundings c).Shows now := by
  obtain ⟨hclock, hinner, hzone⟩ := he
  refine ⟨?_, hinner, hzone⟩
  change c.clock.read = _
  rw [hclock]
  exact Clock.read_setTo hnow

theorem mem_of_leafAt? {l : Leaf} (hl : d.leafAt? p = some l) :
    ∃ w ∈ d.widgets, l ∈ w.leaves := by
  obtain ⟨w, hw, hl⟩ := Option.bind_eq_some_iff.1 hl
  exact ⟨w, List.mem_of_getElem? hw, List.mem_of_getElem? hl⟩

/-- A sweep at the time that the clock shows updates the leaves that are due then. -/
theorem IsReachable.sweep_updates_due (hd : d.IsReachable) (hs : (d.surroundings c).Shows now) :
    (d.sweep c now).Updates d (d.surroundings c) now fun _ l => l.isDue now :=
  (hd.sweep_updates hs now).congr fun _ _ _ hl => Widget.picksIn_eq_isDue (fun _ _ _ => rfl) hl

theorem leafAt?_sweep
    (h : (d.sweep c now).Updates d (d.surroundings c) now fun _ l => l.isDue now) (p : LeafPlace) :
    (d.sweep c now).dashboard.leafAt? p =
      (d.leafAt? p).map fun l => if l.isDue now then (l.update (d.surroundings c)).leaf else l := by
  rw [h.dashboard_eq]
  unfold leafAt?
  dsimp only
  rw [List.getElem?_map]
  cases d.widgets[p.widget]? with
  | none => rfl
  | some w => simp

/-! ## Runs -/

/-- What a paced run keeps about the leaf at a place: its state is what the reports make of it. -/
structure Keeping (d : Dashboard) (p : LeafPlace) (policy : CachePolicy) (h : History) (l : Leaf) :
    Prop where
  leafAt?_eq : d.leafAt? p = some l
  kind_ne : l.kind ≠ .html
  describedBy : l.base.refresh.DescribedBy policy false h
  isInner : ∀ r ∈ h.getLast?, r.now.IsInner

theorem Keeping.isNever_eq_false {h : History} {l : Leaf} (hl : Keeping d p policy h l)
    (hd : d.IsReachable) : policy.isNever = false := by
  obtain ⟨w, hw, hmem⟩ := mem_of_leafAt? hl.leafAt?_eq
  have hnever := (hd.wellFormed w hw l hmem).isNever_eq_false hl.kind_ne
  rwa [hl.describedBy.policy_eq] at hnever

/-- An update of a leaf that is due adds its report to the history. -/
theorem Keeping.update {h : History} {l : Leaf} (hl : Keeping d p policy h l)
    (hd : d.IsReachable) (hs : (d.surroundings c).Shows now) (hdue : l.isDue now) :
    ∃ outcome, l.ReportsOnce (d.surroundings c) now outcome (l.update (d.surroundings c)).leaf ∧
      Keeping (d.sweep c now).dashboard p policy (h ++ [⟨outcome, c.offset, now⟩])
        (l.update (d.surroundings c)).leaf := by
  have hupdates := hd.sweep_updates_due hs
  obtain ⟨w, hw, hmem⟩ := mem_of_leafAt? hl.leafAt?_eq
  obtain ⟨outcome, hreport⟩ := hupdates.reportsOnce w hw l hmem hdue
  let r : OutcomeReport := ⟨outcome, c.offset, now⟩
  obtain ⟨next, hnext⟩ := (hl.describedBy.complete_iff r).1 hreport.complete
  have hface := (hd.wellFormed w hw l hmem).face_update hs
  refine ⟨outcome, hreport, ?_, ?_, ?_, ?_⟩
  · rw [leafAt?_sweep hupdates, hl.leafAt?_eq, Option.map_some, if_pos hdue]
  · have hkind : (l.update (d.surroundings c)).leaf.kind = l.kind := congrArg (·.2.2) hface
    rw [hkind]
    exact hl.kind_ne
  · rw [hreport.base_eq]
    exact hl.describedBy.report hnext
  · intro r' hr'
    rw [List.getLast?_concat] at hr'
    obtain rfl := Option.mem_some_iff.1 hr'
    exact hs.isInner

/-- A leaf that is not static has no reports when it has been built. -/
theorem keeping_of_ofConfig {l : Leaf} (hd : ofConfig config = .ok d)
    (hl : d.leafAt? p = some l) (hkind : l.kind ≠ .html) :
    Keeping d p l.base.refresh.policy [] l := by
  obtain ⟨w, hw, hmem⟩ := mem_of_leafAt? hl
  obtain ⟨id, common, entry, hcontent, hbase⟩ := (isBuilt_of_ofConfig hd w hw).leaves l hmem
  have hstatic : entry.kind.isStatic = false := by
    rw [← Content.kind_of_ofConfig hcontent]
    exact Content.isStatic_kind hkind
  have hrefresh : l.base.refresh =
      RefreshState.start (entry.kind.defaultPolicy.override common.cache) false := by
    rw [hbase]
    exact (WidgetBase.ofConfig_refresh id entry.kind common).trans (by rw [hstatic]; rfl)
  refine ⟨hl, hkind, ?_, by simp⟩
  rw [hrefresh]
  exact RefreshState.start_describedBy _ false

/-- One event more. -/
theorem PacedRun.step {events : List Event} {h : History} {l : Leaf}
    (hrun : PacedRun built p policy events h) (hl : Keeping (built.run events) p policy h l)
    (hreachable : (built.run events).IsReachable) {e : Event} (he : e.IsPunctual) :
    ∃ h' l', PacedRun built p policy (events ++ [e]) h' ∧
      Keeping (built.run (events ++ [e])) p policy h' l' := by
  rw [run_append built events [e]]
  change ∃ h' l', _ ∧ Keeping ((built.run events).after e) p policy h' l'
  cases e with
  | shutdown =>
    refine ⟨h, l, .shutdown hrun ?_, { hl with leafAt?_eq := hl.leafAt?_eq }⟩
    rw [run_append]
    rfl
  | sweepIntoShutdown | overlap => exact he.elim
  | sweep c now =>
    -- The clock shows the instant, so that it can be read only if that is not before the epoch.
    rcases lt_or_ge now.nanos 0 with hnow | hnow
    · have hread : ((built.run events).surroundings c).clock.read = .error .outOfRange := by
        change c.clock.read = _
        rw [he.1]
        exact Clock.read_setTo_of_neg hnow
      have hsame := sweep_dashboard_of_read_eq_error hread now
      refine ⟨h, l, .beforeEpoch hrun hnow ?_, ?_⟩
      · rw [run_append]
        exact congrArg (·.leafAt? p) hsame
      · change Keeping ((built.run events).sweep c now).dashboard p policy h l
        rw [hsame]
        exact hl
    · have hs := he.shows hnow (built.run events)
      have hnever := hl.isNever_eq_false hreachable
      cases hdue : l.isDue now with
      | true =>
        obtain ⟨outcome, hreport, hl'⟩ := hl.update hreachable hs hdue
        have hlimit := (hl.describedBy.isDue_iff hnever hl.isInner now).1 hdue
        refine ⟨_, _, .updated hrun hnow hlimit hl.leafAt?_eq hdue ?_ hreport, hl'⟩
        rw [run_append]
        exact hl'.leafAt?_eq
      | false =>
        have hafter : ((built.run events).after (.sweep c now)).leafAt? p = some l := by
          change ((built.run events).sweep c now).dashboard.leafAt? p = some l
          rw [leafAt?_sweep (hreachable.sweep_updates_due hs), hl.leafAt?_eq, Option.map_some,
            if_neg (by simp [hdue])]
        obtain ⟨limit, hlimit, hle⟩ :=
          hl.describedBy.exists_isLimit_of_not_isDue hnever hl.isInner hdue
        refine ⟨h, l, .skipped hrun hnow hlimit hle hl.leafAt?_eq hdue ?_,
          { hl with leafAt?_eq := hafter }⟩
        rw [run_append]
        exact hafter

/-- Every run of punctual events is paced. -/
theorem exists_pacedRun {l : Leaf} (hd : ofConfig config = .ok d) (hl : d.leafAt? p = some l)
    (hkind : l.kind ≠ .html) {events : List Event} (hevents : ∀ e ∈ events, e.IsPunctual) :
    ∃ h l', PacedRun d p l.base.refresh.policy events h ∧
      Keeping (d.run events) p l.base.refresh.policy h l' := by
  induction events using List.reverseRecOn with
  | nil => exact ⟨[], l, .nil, keeping_of_ofConfig hd hl hkind⟩
  | append_singleton events e ih =>
    obtain ⟨h, l', hrun, hkeeping⟩ := ih fun e' he' => hevents e' (List.mem_append_left [e] he')
    obtain ⟨h', l'', hrun', hkeeping'⟩ :=
      hrun.step hkeeping (isReachable_run hd events) (hevents e (by simp))
    exact ⟨h', l'', hrun', hkeeping'⟩

/-- In every run of sweeps by a clock that shows their instants, each of them updates just the
leaves that are due, all leaves that are not static are updated at their pace, and no wait ends
before the report that began it, or later than 25 minutes after a failure. -/
theorem run_paced (hd : ofConfig config = .ok d) {events : List Event}
    (hevents : ∀ e ∈ events, e.IsPunctual) :
    (∀ earlier c now later, events = earlier ++ .sweep c now :: later → 0 ≤ now.nanos →
        ((d.run earlier).sweep c now).Updates (d.run earlier) ((d.run earlier).surroundings c) now
          fun _ l => l.isDue now) ∧
      ∀ p l, d.leafAt? p = some l → l.kind ≠ .html →
        ∃ h, PacedRun d p l.base.refresh.policy events h ∧
          ∀ limit, h.IsLimit l.base.refresh.policy limit → ∀ r ∈ h.getLast?,
            r.now ≤ limit ∧
              (r.outcome.isFailure → limit.nanos ≤ r.now.nanos + 25 * 60 * 1000000000) := by
  constructor
  · rintro earlier c now later rfl hnow
    have he : (Event.sweep c now).IsPunctual := hevents _ (by simp)
    exact (isReachable_run hd earlier).sweep_updates_due (he.shows hnow _)
  · intro p l hl hkind
    obtain ⟨h, _, hrun, _⟩ := exists_pacedRun hd hl hkind hevents
    exact ⟨h, hrun, fun limit hlimit r hr => ⟨hlimit.le hr, hlimit.le_of_isFailure hr⟩⟩

/-- A sweep without a network, by a clock that shows its instant. -/
def offlineSweep (now : Instant) : Event := .sweep ⟨.setTo now, 0, .unreachable, fun _ => true⟩ now

/-- Sweeps at the epoch, half a minute after it, and a second after the first retry is due. -/
def offlineSweeps : List Event :=
  [offlineSweep .epoch, offlineSweep ⟨30000000000, by decide, by decide⟩,
    offlineSweep ⟨61000000000, by decide, by decide⟩]

/-- Without a network the API of an almanac is tried by the first sweep and by the third. -/
theorem run_paced_offline :
    ∃ d l, ofConfig almanac = .ok d ∧ (∀ e ∈ offlineSweeps, e.IsPunctual) ∧
      d.leafAt? ⟨1, 1⟩ = some l ∧ l.kind = .customApi ∧
      (∃ h, PacedRun d ⟨1, 1⟩ l.base.refresh.policy offlineSweeps h) ∧
      ((d.run offlineSweeps).leafAt? ⟨1, 1⟩).map (·.base.refresh.retryCount) = some 2 := by
  obtain ⟨d, hd⟩ : ∃ d, ofConfig almanac = .ok d := ⟨_, rfl⟩
  have hevents : ∀ e ∈ offlineSweeps, e.IsPunctual := by
    intro e he
    rcases List.mem_cons.1 he with rfl | he
    · exact ⟨rfl, by decide, by decide⟩
    · rcases List.mem_cons.1 he with rfl | he
      · exact ⟨rfl, by decide, by decide⟩
      · obtain rfl := List.mem_singleton.1 he
        exact ⟨rfl, by decide, by decide⟩
  obtain ⟨_, hpaced⟩ := run_paced hd hevents
  cases hd
  obtain ⟨h, hrun, _⟩ := hpaced ⟨1, 1⟩ _ rfl (by decide)
  exact ⟨_, _, rfl, hevents, rfl, rfl, ⟨h, hrun⟩, rfl⟩

/-- A sweep a day before the epoch does not update the calendar of an almanac, although it is the
first one. -/
theorem run_not_paced_beforeEpoch :
    ∃ d l l', ofConfig almanac = .ok d ∧
      let now : Instant := ⟨-86400000000000, by decide, by decide⟩
      (offlineSweep now).IsPunctual ∧
        d.leafAt? ⟨0, 0⟩ = some l ∧ l.kind = .calendar ∧
        (d.run [offlineSweep now]).leafAt? ⟨0, 0⟩ = some l' ∧
        ∀ outcome,
          ¬ l.ReportsOnce (d.surroundings ⟨.setTo now, 0, .unreachable, fun _ => true⟩) now
            outcome l' := by
  obtain ⟨d, hd⟩ : ∃ d, ofConfig almanac = .ok d := ⟨_, rfl⟩
  cases hd
  refine ⟨_, _, _, rfl, ⟨rfl, by decide, by decide⟩, rfl, rfl, rfl, ?_⟩
  intro outcome hreport
  have hupdated := hreport.lastUpdated_eq (by decide)
  cases hupdated

end Dashboard

end DashboardRefresh
