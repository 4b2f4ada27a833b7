import DashboardRefresh.Proofs.Board.Reachable

/-!
# One update, one report

An update of a leaf that is not static reports one outcome to its refresh state, the one that the
answers call for. If that is a total failure the data stay as they are, and otherwise all of them
are new. A clock that stands before the epoch cannot be read, and then the update changes nothing.
-/

namespace DashboardRefresh

namespace Leaf

/-- The second leaf is the first one after a report of `outcome` at `now`. -/
structure ReportsOnce (s : Surroundings) (now : Instant) (outcome : Outcome) (l l' : Leaf) :
    Prop where
  verdict_eq : outcome.verdict = l.content.verdict s
  complete : (l.base.refresh.report outcome s.offset now).complete
  base_eq : l'.base =
    { l.base with refresh := (l.base.refresh.report outcome s.offset now).state }
  content_eq : l'.content =
    if l.content.verdict s = .totalFailure then l.content else l.content.cleared.refreshed s now

variable {l : Leaf} {s : Surroundings} {now : Instant}

theorem WellFormed.reportsOnce (hl : l.WellFormed) (hkind : l.kind ≠ .html) (hs : s.Shows now)
    (hsettled : s.IsSettled) : ∃ outcome, l.ReportsOnce s now outcome (l.update s).leaf := by
  obtain ⟨c, hcycle, hupdate⟩ := update_eq_reported hkind hs
  have hends := Content.cycle_ends hl.isValid hs hsettled hcycle
  refine ⟨c.outcome, hends.verdict_eq,
    RefreshState.report_complete _ c.outcome s.offset hs.isInner, ?_, ?_⟩
  · rw [hupdate]
    rfl
  · rw [hupdate, Content.refreshed_cleared]
    unfold reported
    dsimp only
    by_cases htotal : l.content.verdict s = .totalFailure
    · have hdrops : ¬ c.outcome.keepsData := by
        rw [Outcome.keepsData_iff, hends.verdict_eq]
        exact not_not_intro htotal
      rw [if_neg hdrops, if_pos htotal]
    · have hkeeps : c.outcome.keepsData := by
        rw [Outcome.keepsData_iff, hends.verdict_eq]
        exact htotal
      rw [if_pos hkeeps, if_neg htotal, hends.content_eq hkeeps]

/-- A report that leaves content sets the time of the last update. -/
theorem ReportsOnce.lastUpdated_eq {outcome : Outcome} {l' : Leaf}
    (h : l.ReportsOnce s now outcome l') (hverdict : l.content.verdict s ≠ .totalFailure) :
    l'.base.refresh.lastUpdated = some now := by
  have hkeeps : outcome.keepsData := by
    rw [Outcome.keepsData_iff, h.verdict_eq]
    exact hverdict
  rw [h.base_eq]
  simp [hkeeps]

/-- In every reachable state, and whatever the network answers, an update reports exactly one
outcome at the time of the clock, and replaces the data unless the outcome is a total failure.
Before the epoch it leaves the leaf as it is. -/
theorem update_reports_once (hl : l.IsReachable) (hkind : l.kind ≠ .html)
    (hclock : s.clock.IsInner) (hzone : IsZoneOffset s.offset) (hsettled : s.IsSettled) :
    ∃ l', ((Widget.leaf l).update s).widget = .leaf l' ∧
      (0 ≤ s.clock.nanos →
        ∃ now outcome, now.nanos = s.clock.nanos ∧ l.ReportsOnce s now outcome l') ∧
      (s.clock.nanos < 0 → l' = l) := by
  refine ⟨(l.update s).leaf, rfl, ?_, ?_⟩
  · intro hepoch
    obtain ⟨now, hs, hnanos⟩ := Surroundings.exists_shows hclock hepoch hzone
    obtain ⟨outcome, hreport⟩ := hl.wellFormed.reportsOnce hkind hs hsettled
    exact ⟨now, outcome, hnanos, hreport⟩
  · intro hbefore
    have hread : s.clock.read = .error .outOfRange := if_pos hbefore
    exact update_leaf_of_read_eq_error hread

/-- A custom API that has been built and not been updated yet. -/
def newFeed : Leaf :=
  ⟨.ofConfig 1 .customApi ⟨none, none, false, none, none⟩,
    .customApi ⟨"http://a.test", [], none⟩ none⟩

/-- What an update meets at the epoch if all requests are answered alike. -/
def answeredAtEpoch (answer : Answer) : Surroundings :=
  ⟨.setTo .epoch, 0, fun _ => answer, .ofSeconds 10, .never, fun _ => true⟩

/-- The API after an answer whose text is the digit one. -/
def fedLeaf : Leaf := (newFeed.update (answeredAtEpoch (.response 200 [49]))).leaf

/-- A page that is not found is a total failure, and the document that was fetched before stays. -/
theorem update_reports_once_notFound :
    fedLeaf.IsReachable ∧ ∃ l' now outcome,
      ((Widget.leaf fedLeaf).update (answeredAtEpoch (.response 404 []))).widget = .leaf l' ∧
      fedLeaf.ReportsOnce (answeredAtEpoch (.response 404 [])) now outcome l' ∧
      outcome.verdict = .totalFailure ∧ l'.content.data = .object [("document", .ofNat 1)] := by
  have hbuilt : newFeed.IsBuilt :=
    ⟨1, ⟨none, none, false, none, none⟩, .customApi ⟨"http://a.test", [], none⟩, rfl, rfl⟩
  have hreachable : fedLeaf.IsReachable := ⟨newFeed, hbuilt, .single ⟨_, trivial, rfl⟩⟩
  obtain ⟨l', hl', hreports, _⟩ := update_reports_once hreachable
    (s := answeredAtEpoch (.response 404 [])) (by decide) (by decide) (by decide) (.inl rfl)
  obtain ⟨now, outcome, _, hreport⟩ := hreports le_rfl
  have htotal : fedLeaf.content.verdict (answeredAtEpoch (.response 404 [])) = .totalFailure := rfl
  refine ⟨hreachable, l', now, outcome, hl', hreport, hreport.verdict_eq.trans htotal, ?_⟩
  rw [hreport.content_eq, if_pos htotal]
  rfl

/-- A calendar that has been built and not been updated yet. -/
def newCalendar : Leaf :=
  ⟨.ofConfig 1 .calendar ⟨none, none, false, none, none⟩, .calendar false none⟩

/-- What an update meets a day before the epoch. -/
def dayBeforeEpoch : Surroundings :=
  ⟨⟨-86400000000000⟩, 0, .unreachable, .ofSeconds 10, .never, fun _ => true⟩

/-- A day before the epoch an update of a calendar reports nothing, although the clock lies far
inside the range of instants. -/
theorem update_reports_nothing_dayBeforeEpoch :
    newCalendar.IsReachable ∧ newCalendar.kind = .calendar ∧ dayBeforeEpoch.clock.IsInner ∧
      IsZoneOffset dayBeforeEpoch.offset ∧ dayBeforeEpoch.IsSettled ∧
      ¬ ∃ l' now outcome, ((Widget.leaf newCalendar).update dayBeforeEpoch).widget = .leaf l' ∧
        newCalendar.ReportsOnce dayBeforeEpoch now outcome l' := by
  have hbuilt : newCalendar.IsBuilt :=
    ⟨1, ⟨none, none, false, none, none⟩, .calendar false, rfl, rfl⟩
  refine ⟨⟨newCalendar, hbuilt, .refl⟩, rfl, by decide, by decide, .inl rfl, ?_⟩
  rintro ⟨l', now, outcome, hl', hreport⟩
  obtain rfl : newCalendar = l' := Widget.leaf.inj hl'
  have hupdated : newCalendar.base.refresh.lastUpdated = some now :=
    hreport.lastUpdated_eq (by decide)
  exact absurd hupdated (by simp [newCalendar, WidgetBase.ofConfig_refresh, RefreshState.initial])

end Leaf

end DashboardRefresh
