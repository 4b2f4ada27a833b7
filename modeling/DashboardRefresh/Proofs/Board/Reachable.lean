import DashboardRefresh.Proofs.Board.Agreement
import DashboardRefresh.Proofs.Widget.Verdicts

/-!
# Reachable dashboards

A dashboard is reachable if a configuration builds one that becomes it by sweeps and shutdowns,
under any clocks at all, and a leaf if it was built from an entry and updated since. Reachable
leaves are well formed: the content keeps what its entry promised, and the policy asks for updates
unless the content is static.
-/

namespace DashboardRefresh

/-- An entry can change how often a widget is updated, but not whether it is. -/
theorem CachePolicy.isNever_override (policy : CachePolicy) (custom : Option Duration) :
    (policy.override custom).isNever = policy.isNever := by
  unfold override
  split
  · split <;> rfl
  · rfl

theorem WidgetKind.isNever_defaultPolicy {kind : WidgetKind} :
    kind.defaultPolicy.isNever = kind.isStatic := by
  cases kind <;> rfl

namespace Leaf

/-- The leaf was built from an entry, and has been updated since, whatever the updates met. -/
def IsReachable (l : Leaf) : Prop :=
  ∃ built : Leaf, built.IsBuilt ∧ built.Reaches (fun _ => True) l

theorem IsBuilt.wellFormed {l : Leaf} (hl : l.IsBuilt) : l.WellFormed where
  isValid := hl.sound.isValid
  isNever_iff := by
    obtain ⟨id, common, config, hcontent, hbase⟩ := hl
    have hkind : l.kind = config.kind := Content.kind_of_ofConfig hcontent
    have hpolicy : l.base.refresh.policy = config.kind.defaultPolicy.override common.cache := by
      rw [hbase]
      exact congrArg (·.policy) (WidgetBase.ofConfig_refresh id config.kind common)
    rw [hpolicy, CachePolicy.isNever_override, WidgetKind.isNever_defaultPolicy, hkind]
    cases config <;> simp [LeafConfig.kind, WidgetKind.isStatic]

theorem IsReachable.wellFormed {l : Leaf} (hl : l.IsReachable) : l.WellFormed := by
  obtain ⟨built, hbuilt, hreaches⟩ := hl
  induction hreaches with
  | refl => exact hbuilt.wellFormed
  | tail _ hstep ih =>
    obtain ⟨s, _, rfl⟩ := hstep
    exact ih.update s

end Leaf

/-- Every leaf of a widget comes from one that the widget had before its updates. -/
theorem Widget.Reaches.exists_leaf {allowed : Surroundings → Prop} {w w' : Widget}
    (h : w.Reaches allowed w') {l' : Leaf} (hl' : l' ∈ w'.leaves) :
    ∃ l ∈ w.leaves, l.Reaches allowed l' := by
  cases h with
  | leaf hl =>
    obtain rfl := List.mem_singleton.1 hl'
    exact ⟨_, List.mem_singleton_self _, hl⟩
  | group hchildren =>
    obtain ⟨i, hi, rfl⟩ := List.getElem_of_mem hl'
    obtain ⟨hlength, hget⟩ := List.forall₂_iff_get.1 hchildren
    exact ⟨_, List.getElem_mem (hlength ▸ hi), hget i (hlength ▸ hi) hi⟩

theorem Widget.IsBuilt.leaves {w : Widget} (hw : w.IsBuilt) : ∀ l ∈ w.leaves, l.IsBuilt := by
  cases hw with
  | leaf hl => exact List.forall_mem_singleton.2 hl
  | group hchildren => exact hchildren

namespace Dashboard

/-- A configuration builds a dashboard that some events turn into this one. -/
def IsReachable (d : Dashboard) : Prop :=
  ∃ config built events, ofConfig config = .ok built ∧ built.run events = d

theorem isReachable_run {config : DashboardConfig} {d : Dashboard} (hd : ofConfig config = .ok d)
    (events : List Event) : (d.run events).IsReachable :=
  ⟨config, d, events, hd, rfl⟩

/-- All leaves of a reachable dashboard are reachable. -/
theorem IsReachable.leaves {d : Dashboard} (hd : d.IsReachable) :
    ∀ w ∈ d.widgets, ∀ l ∈ w.leaves, l.IsReachable := by
  obtain ⟨config, built, events, hbuilt, rfl⟩ := hd
  have hanything : ∀ e ∈ events, e.Meets fun _ => True := by
    intro e _
    cases e with
    | shutdown => trivial
    | sweep | sweepIntoShutdown => trivial
    | overlap => exact fun _ _ _ _ _ => trivial
  -- Every leaf of the dashboard comes from the one at its place in the dashboard that was built.
  have hreaches := built.run_reaches_meeting events hanything
  intro w' hw' l' hl'
  obtain ⟨i, hi, rfl⟩ := List.getElem_of_mem hw'
  obtain ⟨hlength, hget⟩ := List.forall₂_iff_get.1 hreaches
  have hi' : i < built.widgets.length := hlength ▸ hi
  obtain ⟨l, hl, hleaf⟩ := (hget i hi' hi).exists_leaf hl'
  exact ⟨l, (isBuilt_of_ofConfig hbuilt _ (List.getElem_mem hi')).leaves l hl, hleaf⟩

theorem IsReachable.wellFormed {d : Dashboard} (hd : d.IsReachable) :
    ∀ w ∈ d.widgets, w.WellFormed :=
  fun w hw l hl => (hd.leaves w hw l hl).wellFormed

end Dashboard

end DashboardRefresh
