import DashboardRefresh.Board.Dashboard

/-!
# Built dashboards

What the widgets of a dashboard look like before its first sweep: each leaf has the content and the
base that its entry describes, but for the header, which a child does not show.
-/

namespace DashboardRefresh

theorem exists_of_map_eq_ok {ε α β : Type} {f : α → β} {x : Except ε α} {y : β}
    (h : x.map f = .ok y) : ∃ a, x = .ok a ∧ f a = y := by
  cases x with
  | error => cases h
  | ok a => exact ⟨a, rfl, Except.ok.inj h⟩

theorem exists_of_bind_eq_ok {ε α β : Type} {f : α → Except ε β} {x : Except ε α} {y : β}
    (h : x >>= f = .ok y) : ∃ a, x = .ok a ∧ f a = .ok y := by
  cases x with
  | error => cases h
  | ok a => exact ⟨a, rfl, h⟩

/-- The leaf has been built from an entry and not been updated since. -/
def Leaf.IsBuilt (l : Leaf) : Prop :=
  ∃ id common config, Content.ofConfig config = .ok l.content ∧
    l.base = { WidgetBase.ofConfig id config.kind common with hideHeader := l.base.hideHeader }

/-- The widget has been built from an entry and not been updated since. -/
inductive Widget.IsBuilt : Widget → Prop
  | leaf {l : Leaf} (hl : l.IsBuilt) : IsBuilt (.leaf l)
  | group {id : Nat} {common : CommonConfig} {children : List Leaf}
      (hchildren : ∀ l ∈ children, l.IsBuilt) :
      IsBuilt (.group (WidgetBase.ofConfig id .group common) children)

/-- A new base has the flag that content is available for static widgets only, and no other mark. -/
theorem WidgetBase.ofConfig_refresh (id : Nat) (kind : WidgetKind) (common : CommonConfig) :
    (WidgetBase.ofConfig id kind common).refresh =
      { RefreshState.initial (kind.defaultPolicy.override common.cache) with
        contentAvailable := kind.isStatic } := by
  cases kind <;> rfl

/-- An entry describes content of its own kind. -/
theorem Content.kind_of_ofConfig {config : LeafConfig} {content : Content}
    (h : Content.ofConfig config = .ok content) : content.kind = config.kind := by
  cases config with
  | html source =>
    cases h
    rfl
  | calendar startSunday =>
    cases h
    rfl
  | monitor sites showFailingOnly =>
    obtain ⟨m, _, rfl⟩ := exists_of_map_eq_ok h
    rfl
  | customApi api =>
    simp only [ofConfig] at h
    split at h
    · cases h
    · cases h
      rfl
  | releases c =>
    obtain ⟨l, _, rfl⟩ := exists_of_map_eq_ok h
    rfl

namespace Leaf

theorem IsBuilt.asChild {l : Leaf} (hl : l.IsBuilt) : l.asChild.IsBuilt := by
  obtain ⟨id, common, config, hcontent, hbase⟩ := hl
  refine ⟨id, common, config, hcontent, ?_⟩
  unfold Leaf.asChild
  rw [hbase]

theorem isBuilt_of_build {last : Nat} {common : CommonConfig} {config : LeafConfig} {l : Leaf}
    (h : (Leaf.build last common config).result = .ok l) : l.IsBuilt := by
  obtain ⟨content, hcontent, rfl⟩ := exists_of_map_eq_ok h
  exact ⟨last + 1, common, config, hcontent, rfl⟩

end Leaf

theorem Group.isBuilt_of_buildChildren {last position : Nat} {configs : List WidgetConfig}
    {children : List Leaf} (h : (buildChildren last position configs).result = .ok children) :
    ∀ l ∈ children, l.IsBuilt := by
  induction configs generalizing last position children with
  | nil =>
    cases h
    simp
  | cons c rest ih =>
    cases c with
    | group => cases h
    | leaf common config =>
      unfold buildChildren at h
      cases hchild : (Leaf.build last common config).result with
      | error fault =>
        simp only [hchild] at h
        cases h
      | ok l =>
        simp only [hchild] at h
        obtain ⟨others, hothers, rfl⟩ := exists_of_map_eq_ok h
        intro child hmem
        rcases List.mem_cons.1 hmem with rfl | hmem
        · exact (Leaf.isBuilt_of_build hchild).asChild
        · exact ih hothers child hmem

theorem Widget.isBuilt_of_build {last : Nat} {config : WidgetConfig} {w : Widget}
    (h : (Widget.build last config).result = .ok w) : w.IsBuilt := by
  cases config with
  | leaf common config =>
    obtain ⟨l, hl, rfl⟩ := exists_of_map_eq_ok h
    exact .leaf (Leaf.isBuilt_of_build hl)
  | group common configs =>
    obtain ⟨children, hchildren, rfl⟩ := exists_of_map_eq_ok h
    exact .group (Group.isBuilt_of_buildChildren hchildren)

namespace Dashboard

theorem isBuilt_of_buildFrom {last position : Nat} {configs : List WidgetConfig}
    {widgets : List Widget} (h : buildFrom last position configs = .ok widgets) :
    ∀ w ∈ widgets, w.IsBuilt := by
  induction configs generalizing last position widgets with
  | nil =>
    cases h
    simp
  | cons c rest ih =>
    unfold buildFrom at h
    cases hbuilt : (Widget.build last c).result with
    | error fault =>
      simp only [hbuilt] at h
      cases h
    | ok w =>
      simp only [hbuilt] at h
      obtain ⟨others, hothers, rfl⟩ := exists_of_map_eq_ok h
      intro v hmem
      rcases List.mem_cons.1 hmem with rfl | hmem
      · exact Widget.isBuilt_of_build hbuilt
      · exact ih hothers v hmem

/-- All widgets of a new dashboard are as their entries describe them. -/
theorem isBuilt_of_ofConfig {config : DashboardConfig} {d : Dashboard}
    (h : ofConfig config = .ok d) : ∀ w ∈ d.widgets, w.IsBuilt := by
  obtain ⟨widgets, hwidgets, rfl⟩ := exists_of_map_eq_ok h
  exact isBuilt_of_buildFrom hwidgets

end Dashboard

end DashboardRefresh
