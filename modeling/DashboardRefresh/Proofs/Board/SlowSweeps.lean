import DashboardRefresh.Proofs.Board.Grouping
import DashboardRefresh.Proofs.Board.Pacing
import DashboardRefresh.Proofs.Widget.Waits

/-!
# Sweeps with hung requests

A sweep takes as long as the update that waits longest, whether it is that of a leaf on its own or
of one in a group. Its hung requests are seen in the leaves that sent them and in no others. In a
group this takes room for the reports of all children, because the first child without room takes
those with it that are still waiting; and at the end of the wait the clock has to be readable.
-/

namespace DashboardRefresh

theorem Group.update_waited {s : Surroundings} {time : Instant} (hs : s.Shows time)
    (children : List Leaf) : (update s children).2.2 =
      (children.map fun l => (l.updateIfDue s time).waited).foldl max 0 := by
  unfold update
  rw [hs.read_eq]
  dsimp only
  rw [if_neg (not_any_halted hs children)]
  dsimp only
  rw [List.map_map]
  rfl

namespace Dashboard

variable {d : Dashboard} {s : Surroundings} {now : Instant} {w : Widget}

/-- A sweep waits for the leaves of a widget that are due, all at once. -/
theorem updateDue_waited (hgroup : w.kind = .group → s.Shows now) :
    (updateDue s now w).waited =
      (w.leaves.map fun l => (l.updateIfDue s now).waited).foldl max 0 := by
  unfold updateDue
  cases w with
  | leaf l =>
    rw [Widget.isDue_leaf, Widget.leaves, List.map_singleton, List.foldl_cons, List.foldl_nil,
      Nat.zero_max, Leaf.updateIfDue]
    split <;> rfl
  | group base children =>
    split
    · exact Group.update_waited (hgroup rfl) children
    · rename_i hdue
      have hnone : ∀ l ∈ children, (l.updateIfDue s now).waited = 0 := by
        intro l hl
        rw [Leaf.updateIfDue, if_neg fun h => hdue (List.any_eq_true.2 ⟨l, hl, h⟩)]
        rfl
      change 0 = (children.map fun l => (l.updateIfDue s now).waited).foldl max 0
      rw [eq_comm, ← Nat.le_zero, Pool.foldl_max_le_iff]
      simpa using hnone

/-- The sweep updates the leaves of the widget that are due. -/
theorem updateDue_widget (hgroup : w.kind = .group → s.Shows now) :
    (updateDue s now w).widget = w.mapLeaves fun l => (l.updateIfDue s now).leaf := by
  cases w with
  | leaf l =>
    rw [updateDue, Widget.isDue_leaf, Widget.mapLeaves, Leaf.updateIfDue]
    split <;> rfl
  | group base children => exact (updateDue_eq_updateIfDue (hgroup rfl) _).1

section Sweep

variable (hgroups : ∀ w ∈ d.widgets, w.kind = .group → s.Shows now)
include hgroups

/-- A sweep takes as long as the leaf that waits longest. -/
theorem sweepIn_waited (hnever : s.cancellation = .never) : (d.sweepIn s now).waited =
    ((d.leaves.filter (·.isDue now)).map (·.content.wait s)).foldl max 0 := by
  have hwait (l : Leaf) : (l.updateIfDue s now).waited =
      if l.isDue now then l.content.wait s else 0 := by
    unfold Leaf.updateIfDue
    split
    · exact Leaf.update_waited hnever
    · rfl
  have hwidget (bound : Nat) : ∀ w ∈ d.widgets, (updateDue s now w).waited ≤ bound ↔
      ∀ l ∈ w.leaves, l.isDue now → l.content.wait s ≤ bound := by
    intro w hw
    rw [updateDue_waited (hgroups w hw), Pool.foldl_max_le_iff, List.forall_mem_map]
    simp only [Nat.zero_le, true_and, hwait]
    refine forall₂_congr fun l _ => ?_
    split <;> simp [*]
  apply eq_of_forall_ge_iff
  intro bound
  unfold sweepIn leaves
  dsimp only
  rw [List.map_map, Pool.foldl_max_le_iff, Pool.foldl_max_le_iff, List.forall_mem_map,
    List.forall_mem_map]
  simp only [List.mem_filter, List.mem_flatMap]
  constructor
  · rintro ⟨hfirst, hall⟩
    refine ⟨hfirst, ?_⟩
    rintro l ⟨⟨w, hw, hl⟩, hdue⟩
    exact (hwidget bound w hw).1 (hall w hw) l hl hdue
  · rintro ⟨hfirst, hall⟩
    refine ⟨hfirst, fun w hw => (hwidget bound w hw).2 fun l hl hdue => ?_⟩
    exact hall l ⟨⟨w, hw, hl⟩, hdue⟩

theorem leafAt?_sweepIn (p : LeafPlace) : (d.sweepIn s now).dashboard.leafAt? p =
    (d.leafAt? p).map fun l => (l.updateIfDue s now).leaf := by
  unfold sweepIn leafAt?
  dsimp only
  rw [List.map_map, List.getElem?_map]
  cases hw : d.widgets[p.widget]? with
  | none => rfl
  | some w =>
    have hwidget := updateDue_widget (hgroups w (List.mem_of_getElem? hw))
    simp [hwidget]

end Sweep

section Punctual

variable {c : Conditions} (hclock : c.clock = .setTo now)
include hclock

theorem read_surroundings (hepoch : 0 ≤ now.nanos) : (d.surroundings c).clock.read = .ok now := by
  change c.clock.read = _
  rw [hclock]
  exact Clock.read_setTo hepoch

theorem read_surroundings_of_neg (hepoch : now.nanos < 0) :
    (d.surroundings c).clock.read = .error .outOfRange := by
  change c.clock.read = _
  rw [hclock]
  exact Clock.read_setTo_of_neg hepoch

variable (hroom : ∀ w ∈ d.widgets, w.kind = .group → now.IsInner ∧ IsZoneOffset c.offset)
include hroom

theorem shows_of_group (hepoch : 0 ≤ now.nanos) :
    ∀ w ∈ d.widgets, w.kind = .group → (d.surroundings c).Shows now := by
  intro w hw hkind
  obtain ⟨hinner, hzone⟩ := hroom w hw hkind
  exact ⟨read_surroundings hclock hepoch, hinner, hzone⟩

/-- A leaf without hung requests becomes what it would become if all requests were answered. -/
theorem leafAt?_sweep_calm {calm : Network} (hcalm : c.network.CalmedBy calm) {p : LeafPlace}
    {l : Leaf} (hl : d.leafAt? p = some l)
    (hanswered : l.isDue now → l.content.hungCount (d.surroundings c) = 0) :
    (d.sweep { c with network := calm } now).dashboard.leafAt? p =
      (d.sweep c now).dashboard.leafAt? p := by
  have hclock' : { c with network := calm }.clock = .setTo now := hclock
  rcases lt_or_ge now.nanos 0 with hepoch | hepoch
  · rw [sweep_dashboard_of_read_eq_error (read_surroundings_of_neg hclock hepoch),
      sweep_dashboard_of_read_eq_error (read_surroundings_of_neg hclock' hepoch)]
  · unfold sweep
    rw [leafAt?_sweepIn (shows_of_group hclock hroom hepoch),
      leafAt?_sweepIn (shows_of_group hclock' hroom hepoch), hl, Option.map_some, Option.map_some]
    unfold Leaf.updateIfDue
    split
    · rename_i hdue
      exact congrArg (fun u => some u.leaf) (Leaf.update_calm hcalm (hanswered hdue))
    · rfl

end Punctual

/-- A sweep of a dashboard that is not being shut down, by a clock that shows its instant, ends as
soon as the leaf that has to wait longest for its hung requests is done; before the epoch this is
said of dashboards without groups only. From the epoch on the leaves that sent these requests show
it, and before it no leaf changes. All other leaves become what they would become if the requests
were answered. -/
theorem sweep_waits_for_hung {c : Conditions} (hd : d.IsReachable) (hrunning : d.cancelled = false)
    (hclock : c.clock = .setTo now)
    (hroom : ∀ w ∈ d.widgets, w.kind = .group → now.IsInner ∧ IsZoneOffset c.offset) :
    ((0 ≤ now.nanos ∨ ∀ w ∈ d.widgets, w.kind ≠ .group) → (d.sweep c now).waited =
        ((d.leaves.filter (·.isDue now)).map (·.content.wait (d.surroundings c))).foldl max 0) ∧
      (0 ≤ now.nanos → ∀ p l, d.leafAt? p = some l → l.isDue now →
        ∃ l', (d.sweep c now).dashboard.leafAt? p = some l' ∧
          l.ReportsHung (d.surroundings c) now l') ∧
      (now.nanos < 0 → (d.sweep c now).dashboard = d) ∧
      ∀ calm, c.network.CalmedBy calm → ∀ p l, d.leafAt? p = some l →
        (l.isDue now → l.content.hungCount (d.surroundings c) = 0) →
          (d.sweep { c with network := calm } now).dashboard.leafAt? p =
            (d.sweep c now).dashboard.leafAt? p := by
  have hnever : (d.surroundings c).cancellation = .never := if_neg (by simp [hrunning])
  refine ⟨?_, ?_, ?_, fun calm hcalm p l => leafAt?_sweep_calm hclock hroom hcalm⟩
  · rintro (hepoch | hflat)
    · exact sweepIn_waited (shows_of_group hclock hroom hepoch) hnever
    · exact sweepIn_waited (fun w hw hkind => absurd hkind (hflat w hw)) hnever
  · intro hepoch p l hl hdue
    obtain ⟨w, hw, hmem⟩ := mem_of_leafAt? hl
    refine ⟨(l.update (d.surroundings c)).leaf, ?_,
      (hd.leaves w hw l hmem).reportsHung hnever (read_surroundings hclock hepoch)⟩
    unfold sweep
    rw [leafAt?_sweepIn (shows_of_group hclock hroom hepoch), hl, Option.map_some,
      Leaf.updateIfDue, if_pos hdue]
  · intro hepoch
    exact sweep_dashboard_of_read_eq_error (read_surroundings_of_neg hclock hepoch) now

/-- A custom API and a monitor of a site with a timeout of its own in a group, and a list of
releases. -/
def watch : DashboardConfig :=
  let common : CommonConfig := ⟨none, none, false, none, none⟩
  let site : SiteConfig :=
    { SiteConfig.blank with
      title := "Home", url := "http://a.test", timeout := some (.ofSeconds 20) }
  { tickInterval := .ofSeconds 1
    requestTimeout := .ofSeconds 10
    widgets :=
      [.group common
        [.leaf common (.customApi ⟨"http://a.test", [], none⟩),
          .leaf common (.monitor [site] false)],
        .leaf common (.releases { ReleasesConfig.blank with repositories := ["a/b"] })] }

/-- A time at which the site and the API are not answered. -/
def silence (now : Instant) : Conditions :=
  ⟨.setTo now, 0, .ofTable [("http://a.test/", .hangs)], fun _ => true⟩

theorem silence_calmedBy (now : Instant) : (silence now).network.CalmedBy (.ofTable []) := by
  intro r hanswered
  unfold silence Network.ofTable at *
  dsimp only at *
  split
  · rename_i hscheme
    rw [if_pos hscheme, List.lookup_cons] at hanswered
    rw [List.lookup_cons]
    cases hsame : r.url.textWithoutFragment == "http://a.test/" with
    | true =>
      rw [hsame] at hanswered
      exact absurd rfl hanswered
    | false => rfl
  · rfl

/-- The texts that a leaf shows for its sites. -/
def siteTexts (l : Leaf) : List String :=
  match l.content with
  | .monitor m => m.sites.map (·.statusText)
  | _ => []

/-- At the epoch a watch waits for its site, which is shown to have timed out. The releases do not
learn of this. -/
theorem sweep_waits_for_hung_watch :
    ∃ d, ofConfig watch = .ok d ∧ d.IsReachable ∧ d.cancelled = false ∧
      (∀ w ∈ d.widgets, w.kind = .group → Instant.epoch.IsInner ∧ IsZoneOffset 0) ∧
      (d.sweep (silence .epoch) .epoch).waited = 20000 ∧
      (∃ l, (d.sweep (silence .epoch) .epoch).dashboard.leafAt? ⟨0, 1⟩ = some l ∧
        (siteTexts l)[0]? = some "Timed Out") ∧
      (d.sweep { silence .epoch with network := .ofTable [] } .epoch).dashboard.leafAt? ⟨1, 0⟩ =
        (d.sweep (silence .epoch) .epoch).dashboard.leafAt? ⟨1, 0⟩ := by
  obtain ⟨d, hd⟩ : ∃ d, ofConfig watch = .ok d := ⟨_, rfl⟩
  have hreachable : d.IsReachable := isReachable_run hd []
  have hroom : ∀ w ∈ d.widgets, w.kind = .group → Instant.epoch.IsInner ∧ IsZoneOffset 0 :=
    fun _ _ _ => ⟨by decide, by decide⟩
  have hrunning := (settings_of_ofConfig hd).2
  obtain ⟨hwaited, hreports, _, hothers⟩ :=
    sweep_waits_for_hung (c := silence .epoch) hreachable hrunning rfl hroom
  refine ⟨d, hd, hreachable, hrunning, hroom, ?_, ?_, ?_⟩
  · rw [hwaited (.inl (by decide))]
    cases hd
    decide +kernel
  · cases hd
    obtain ⟨l, hl, hshows⟩ := hreports (by decide) ⟨0, 1⟩ _ rfl (by decide +kernel)
    obtain ⟨shown, hcontent, hsites⟩ := hshows.sites _ rfl
    obtain ⟨site, hsite, _, htimeout⟩ := hsites 0 _ rfl (by decide +kernel)
    refine ⟨l, hl, ?_⟩
    simp only [siteTexts, hcontent, List.getElem?_map, hsite, Option.map_some, htimeout.text_eq]
  · cases hd
    exact hothers _ (silence_calmedBy _) ⟨1, 0⟩ _ rfl fun _ => by decide +kernel

/-- A day before the epoch, and at the last instant of all, a watch does not wait as long as its
site would have it, and the site does not show that it has timed out. -/
theorem sweep_not_waiting_for_hung :
    ∃ d, ofConfig watch = .ok d ∧ d.cancelled = false ∧
      let beforeEpoch : Instant := ⟨-86400000000000, by decide, by decide⟩
      ∀ now ∈ [beforeEpoch, .latest],
        (∀ l ∈ d.leaves, l.isDue now) ∧
        (d.sweep (silence now) now).waited <
          (d.leaves.map (·.content.wait (d.surroundings (silence now)))).foldl max 0 ∧
        (d.leafAt? ⟨0, 1⟩).map (·.content.hungCount (d.surroundings (silence now))) = some 1 ∧
        ((d.sweep (silence now) now).dashboard.leafAt? ⟨0, 1⟩).map siteTexts = some [""] := by
  obtain ⟨d, hd⟩ : ∃ d, ofConfig watch = .ok d := ⟨_, rfl⟩
  cases hd
  exact ⟨_, rfl, rfl, by decide +kernel⟩

end Dashboard

end DashboardRefresh
