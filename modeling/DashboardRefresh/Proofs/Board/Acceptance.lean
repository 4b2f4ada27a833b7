import DashboardRefresh.Proofs.Board.Validity

/-!
# Accepted configurations

A dashboard is built from a configuration just if all of its entries are valid. Otherwise the first
entry that is not valid decides the error, and in a group its first child that is a group or not
valid decides the message. A dashboard that has been built has one widget for each entry, and no
widget of it, nor a child, asks for new content all the time.
-/

namespace DashboardRefresh

namespace WidgetConfig

/-- The message about an entry that is not valid. -/
inductive FailsWith : WidgetConfig → String → Prop
  | leaf {common : CommonConfig} {content : LeafConfig} {fault : WidgetFault}
      (h : Content.ofConfig content = .error fault) : FailsWith (.leaf common content) fault.message
  | nested {common childCommon : CommonConfig} {before children after : List WidgetConfig}
      (hbefore : ∀ child ∈ before, child.IsValidLeaf) :
      FailsWith (.group common (before ++ .group childCommon children :: after))
        "nested groups are not supported"
  | child {common childCommon : CommonConfig} {before after : List WidgetConfig}
      {content : LeafConfig} {fault : WidgetFault} (hbefore : ∀ child ∈ before, child.IsValidLeaf)
      (h : Content.ofConfig content = .error fault) :
      FailsWith (.group common (before ++ .leaf childCommon content :: after))
        ("Widget #" ++ toString before.length ++ " (" ++ content.kind.name ++ "): " ++
          fault.message)

theorem exists_failsWith {c : WidgetConfig} (h : ¬ c.IsValid) : ∃ message, c.FailsWith message := by
  cases c with
  | leaf common content =>
    obtain ⟨fault, hfault⟩ := Content.exists_fault h
    exact ⟨_, .leaf hfault⟩
  | group common children =>
    cases Group.scan children with
    | valid hall => exact absurd hall h
    | invalid hbefore hcontent =>
      obtain ⟨fault, hfault⟩ := Content.exists_fault hcontent
      exact ⟨_, .child hbefore hfault⟩
    | nested hbefore => exact ⟨_, .nested hbefore⟩

theorem FailsWith.exists_build {c : WidgetConfig} {message : String} (h : c.FailsWith message)
    (last : Nat) :
    ∃ fault, (Widget.build last c).result = .error fault ∧ fault.message = message := by
  cases h with
  | @leaf common content fault hfault =>
    refine ⟨fault, ?_, rfl⟩
    change (((Content.ofConfig content).map _).map _ : Except WidgetFault Widget) = _
    rw [hfault]
    rfl
  | nested hbefore =>
    refine ⟨.nestedGroup, ?_, rfl⟩
    change ((Group.buildChildren (last + 1) 0 _).result.map _ : Except WidgetFault Widget) = _
    rw [Group.buildChildren_nested hbefore]
    rfl
  | @child _ _ before _ content fault hbefore hfault =>
    refine ⟨.child before.length content.kind fault, ?_, rfl⟩
    change ((Group.buildChildren (last + 1) 0 _).result.map _ : Except WidgetFault Widget) = _
    rw [Group.buildChildren_fault hbefore hfault]
    rfl

end WidgetConfig

namespace Dashboard

/-- Valid entries at the front are built whatever follows. -/
theorem buildFrom_append {before : List WidgetConfig} (hbefore : ∀ c ∈ before, c.IsValid)
    (last position : Nat) :
    ∃ (widgets : List Widget) (next : Nat), List.Forall₂ Widget.Follows widgets before ∧
      ∀ rest, buildFrom last position (before ++ rest) =
        (buildFrom next (position + before.length) rest).map (widgets ++ ·) := by
  induction before generalizing last position with
  | nil =>
    refine ⟨[], last, .nil, fun rest => ?_⟩
    have hid (x : Except ConfigError (List Widget)) : x = x.map ([] ++ ·) := by cases x <;> rfl
    exact hid _
  | cons c before ih =>
    obtain ⟨hc, hbefore⟩ := List.forall_mem_cons.1 hbefore
    obtain ⟨w, hw, _, hfollows⟩ := Widget.build_of_valid hc last
    obtain ⟨widgets, next, hwidgets, hrest⟩ := ih hbefore (last + c.size) (position + 1)
    refine ⟨w :: widgets, next, .cons hfollows hwidgets, fun rest => ?_⟩
    have hmap (x : Except ConfigError (List Widget)) :
        (x.map (widgets ++ ·)).map (w :: ·) = x.map (w :: widgets ++ ·) := by cases x <;> rfl
    rw [List.cons_append, buildFrom, hw]
    change (buildFrom (last + c.size) (position + 1) (before ++ rest)).map (w :: ·) = _
    rw [hrest, hmap, Nat.add_assoc, Nat.add_comm 1]
    rfl

theorem exists_ofConfig_of_valid {config : DashboardConfig}
    (h : ∀ entry ∈ config.widgets, entry.IsValid) : ∃ d, ofConfig config = .ok d ∧
      List.Forall₂ Widget.Follows d.widgets config.widgets ∧
      d.tickInterval = config.tickInterval := by
  obtain ⟨widgets, next, hwidgets, hrest⟩ := buildFrom_append h 0 0
  have hall := hrest []
  rw [List.append_nil] at hall
  refine ⟨⟨widgets, config.tickInterval, config.requestTimeout, false⟩, ?_, hwidgets, rfl⟩
  unfold ofConfig
  rw [hall]
  change Except.ok (Dashboard.mk (widgets ++ []) _ _ false) = _
  rw [List.append_nil]

/-- The first entry that is not valid decides the error. -/
theorem ofConfig_of_failsWith {config : DashboardConfig} {before after : List WidgetConfig}
    {entry : WidgetConfig} {message : String} (hwidgets : config.widgets = before ++ entry :: after)
    (hbefore : ∀ c ∈ before, c.IsValid) (hentry : entry.FailsWith message) :
    ofConfig config = .error (.invalidWidget before.length entry.kind.name message) := by
  obtain ⟨widgets, next, _, hrest⟩ := buildFrom_append hbefore 0 0
  obtain ⟨fault, hfault, rfl⟩ := hentry.exists_build next
  unfold ofConfig
  rw [hwidgets, hrest, buildFrom, hfault, Nat.zero_add]
  rfl

end Dashboard

theorem DashboardConfig.isZero_tickInterval_of_parse {text : String} {config : DashboardConfig}
    (h : parse text = .ok config) : config.tickInterval.isZero = false := by
  unfold parse at h
  split at h
  · cases h
  · obtain ⟨c, _, hvalid⟩ := exists_of_bind_eq_ok h
    unfold validate at hvalid
    split at hvalid
    · cases hvalid
    · rename_i hnonzero
      split at hvalid
      · cases hvalid
      · split at hvalid
        · cases hvalid
        · cases hvalid
          exact Bool.eq_false_iff.2 hnonzero

theorem forall_mem_of_forall₂ {α β : Type} {R : α → β → Prop} {p : α → Prop} {xs : List α}
    {ys : List β} (h : List.Forall₂ R xs ys) (hp : ∀ x y, R x y → p x) : ∀ x ∈ xs, p x :=
  ((List.forall₂_and_left xs ys).1 (h.imp fun x y hxy => ⟨hp x y hxy, hxy⟩)).1

namespace Widget

/-- The bases of a widget and of its children. -/
def bases (w : Widget) : List WidgetBase := w.base :: w.children.map (·.base)

/-- No time at all is never how long content stays fresh. -/
theorem Follows.isZero_of_fixed {w : Widget} {c : WidgetConfig} (h : w.Follows c) :
    ∀ b ∈ w.bases, ∀ t, b.refresh.policy = .fixed t → t.isZero = false := by
  refine List.forall_mem_cons.2 ⟨fun t ht => ?_, List.forall_mem_map.2 ?_⟩
  · exact WidgetKind.isZero_of_policyFor (h.policy_eq.symm.trans ht)
  · refine forall_mem_of_forall₂ h.children fun l child hl t ht => ?_
    exact WidgetKind.isZero_of_policyFor (hl.policy_eq.symm.trans ht)

theorem Follows.hideHeader_children {w : Widget} {c : WidgetConfig} (h : w.Follows c) :
    ∀ l ∈ w.children, l.base.hideHeader :=
  forall_mem_of_forall₂ h.children fun _ _ hl => hl.hideHeader

end Widget

namespace Dashboard

variable {config : DashboardConfig}

theorem exists_first_of_not_valid (h : ¬ ∀ entry ∈ config.widgets, entry.IsValid) :
    ∃ before entry after message, config.widgets = before ++ entry :: after ∧
      (∀ c ∈ before, c.IsValid) ∧ ¬ entry.IsValid ∧ entry.FailsWith message := by
  rcases forall_mem_or_exists_first WidgetConfig.IsValid config.widgets with
    hall | ⟨before, entry, after, hwidgets, hbefore, hentry⟩
  · exact absurd hall h
  · obtain ⟨message, hmessage⟩ := WidgetConfig.exists_failsWith hentry
    exact ⟨before, entry, after, message, hwidgets, hbefore, hentry, hmessage⟩

theorem exists_ofConfig_iff :
    (∃ d, ofConfig config = .ok d) ↔ ∀ entry ∈ config.widgets, entry.IsValid := by
  constructor
  · rintro ⟨d, hd⟩
    -- If an entry were not valid, the first such one would have decided the error.
    by_contra hinvalid
    obtain ⟨before, entry, after, message, hwidgets, hbefore, _, hmessage⟩ :=
      exists_first_of_not_valid hinvalid
    rw [ofConfig_of_failsWith hwidgets hbefore hmessage] at hd
    cases hd
  · intro h
    obtain ⟨d, hd, _⟩ := exists_ofConfig_of_valid h
    exact ⟨d, hd⟩

theorem ofConfig_eq_error_iff {error : ConfigError} :
    ofConfig config = .error error ↔
      ∃ before entry after message, config.widgets = before ++ entry :: after ∧
        (∀ c ∈ before, c.IsValid) ∧ ¬ entry.IsValid ∧ entry.FailsWith message ∧
        error = .invalidWidget before.length entry.kind.name message := by
  constructor
  · intro h
    have hinvalid : ¬ ∀ entry ∈ config.widgets, entry.IsValid := fun hall => by
      obtain ⟨d, hd⟩ := exists_ofConfig_iff.2 hall
      rw [hd] at h
      cases h
    obtain ⟨before, entry, after, message, hwidgets, hbefore, hentry, hmessage⟩ :=
      exists_first_of_not_valid hinvalid
    rw [ofConfig_of_failsWith hwidgets hbefore hmessage] at h
    exact ⟨before, entry, after, message, hwidgets, hbefore, hentry, hmessage,
      (Except.error.inj h).symm⟩
  · rintro ⟨before, entry, after, message, hwidgets, hbefore, _, hmessage, rfl⟩
    exact ofConfig_of_failsWith hwidgets hbefore hmessage

/-- A dashboard is built from a configuration that has been read if and only if all entries are
valid. The error is that of the first entry that is not. The dashboard has one widget for each
entry, of its kind and with its policy, and never a fixed policy of no time; it looks for widgets
that are due after some time, and hides the headers of groups and their children. -/
theorem ofConfig_accepts {text : String} (hparse : DashboardConfig.parse text = .ok config) :
    ((∃ d, ofConfig config = .ok d) ↔ ∀ entry ∈ config.widgets, entry.IsValid) ∧
      (∀ error, ofConfig config = .error error ↔
        ∃ before entry after message, config.widgets = before ++ entry :: after ∧
          (∀ c ∈ before, c.IsValid) ∧ ¬ entry.IsValid ∧ entry.FailsWith message ∧
          error = .invalidWidget before.length entry.kind.name message) ∧
      ∀ d, ofConfig config = .ok d →
        List.Forall₂ Widget.Follows d.widgets config.widgets ∧
          d.tickInterval = config.tickInterval ∧ d.tickInterval.isZero = false ∧
          ∀ w ∈ d.widgets,
            (w.kind = .group → w.base.hideHeader) ∧ (∀ l ∈ w.children, l.base.hideHeader) ∧
              ∀ b ∈ w.bases, ∀ t, b.refresh.policy = .fixed t → t.isZero = false := by
  refine ⟨exists_ofConfig_iff, fun _ => ofConfig_eq_error_iff, fun d hd => ?_⟩
  obtain ⟨g, hg, hfollows, htick⟩ := exists_ofConfig_of_valid (exists_ofConfig_iff.1 ⟨d, hd⟩)
  obtain rfl : d = g := Except.ok.inj (hd.symm.trans hg)
  have hnonzero : d.tickInterval.isZero = false :=
    htick ▸ DashboardConfig.isZero_tickInterval_of_parse hparse
  refine ⟨hfollows, htick, hnonzero, forall_mem_of_forall₂ hfollows fun w c hw => ?_⟩
  exact ⟨fun hgroup => hw.hideHeader (hw.kind_eq ▸ hgroup), hw.hideHeader_children,
    hw.isZero_of_fixed⟩

/-- The file of a note, and of a group with a custom API. -/
def bulletin (url : String) : String :=
  "[[widgets]]\ntype = \"html\"\nsource = \"\"\n" ++
  "[[widgets]]\ntype = \"group\"\n" ++
  "widgets = [\x7b type = \"custom-api\", url = \"" ++ url ++ "\" \x7d]\n"

/-- Without a URL of the API there is no dashboard, as one of the entries is not valid. -/
theorem ofConfig_accepts_bulletin :
    ∃ config error, DashboardConfig.parse (bulletin "") = .ok config ∧
      ofConfig config = .error error ∧
      error.message = "Widget #1 (group): Widget #0 (custom-api): url is required" ∧
      ¬ ∀ entry ∈ config.widgets, entry.IsValid := by
  have hmessage : (match DashboardConfig.parse (bulletin "") with
      | .error _ => none
      | .ok config => match ofConfig config with
        | .error error => some error.message
        | .ok _ => none) =
      some "Widget #1 (group): Widget #0 (custom-api): url is required" := by decide +kernel
  cases hparse : DashboardConfig.parse (bulletin "") with
  | error => simp [hparse] at hmessage
  | ok config =>
    cases hconfig : ofConfig config with
    | ok => simp [hparse, hconfig] at hmessage
    | error error =>
      refine ⟨config, error, rfl, hconfig, by simpa [hparse, hconfig] using hmessage, ?_⟩
      rw [← (ofConfig_accepts hparse).1]
      rintro ⟨d, hd⟩
      rw [hconfig] at hd
      cases hd

end Dashboard

end DashboardRefresh
