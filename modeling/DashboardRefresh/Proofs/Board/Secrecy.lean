import DashboardRefresh.Json.Printer
import DashboardRefresh.Proofs.Board.Reachable
import DashboardRefresh.Proofs.Board.Validity
import DashboardRefresh.Proofs.Widget.Censored

/-!
# Secrets and snapshots

A configuration that has lost its secrets is accepted or refused for the same reasons, and describes
the same dashboard without its secrets. Such a dashboard goes through every run like the dashboard
itself, as long as the network answers by URL, and shows the same. So no snapshot tells apart two
configurations that differ in their secrets only, if chance decides alike in both runs between
answers and cancellations that are there at once.
-/

namespace DashboardRefresh

/-! ## Configurations -/

namespace ReleasesConfig

/-- The list without its tokens. -/
def censored (c : ReleasesConfig) : ReleasesConfig :=
  { c with githubToken := none, gitlabToken := none }

end ReleasesConfig

namespace LeafConfig

/-- The entry without the tokens, user names and passwords in it. -/
def censored : LeafConfig → LeafConfig
  | monitor sites showFailingOnly => monitor (sites.map SiteConfig.censored) showFailingOnly
  | releases c => releases c.censored
  | config => config

theorem kind_censored (config : LeafConfig) : config.censored.kind = config.kind := by
  cases config <;> rfl

/-- The tokens, if there are any, are empty or can stand in headers. -/
def HasValidTokens : LeafConfig → Prop
  | releases c => c.HasValidTokens
  | _ => True

end LeafConfig

namespace WidgetConfig

mutual

/-- The entry without the secrets in it, those of its children included. -/
def censored : WidgetConfig → WidgetConfig
  | leaf common content => leaf common content.censored
  | group common children => group common (censoredAll children)

def censoredAll : List WidgetConfig → List WidgetConfig
  | [] => []
  | c :: rest => c.censored :: censoredAll rest

end

theorem kind_censored (c : WidgetConfig) : c.censored.kind = c.kind := by
  cases c with
  | leaf common content => exact content.kind_censored
  | group => rfl

/-- All tokens in the entry and its children are empty or can stand in headers. -/
def HasValidTokens (c : WidgetConfig) : Prop :=
  ∀ part ∈ c :: c.children, ∀ common content, part = .leaf common content → content.HasValidTokens

theorem hasValidTokens_leaf {common : CommonConfig} {content : LeafConfig}
    (h : content.HasValidTokens) : (leaf common content).HasValidTokens := by
  intro part hpart _ _ heq
  obtain rfl := List.mem_singleton.1 hpart
  cases heq
  exact h

end WidgetConfig

namespace DashboardConfig

/-- The configuration without the secrets in it. -/
def censored (c : DashboardConfig) : DashboardConfig :=
  { c with widgets := WidgetConfig.censoredAll c.widgets }

end DashboardConfig

/-! ## Building -/

theorem Monitor.ofConfig_censored (sites : List SiteConfig) (showFailingOnly : Bool) :
    ofConfig (sites.map SiteConfig.censored) showFailingOnly =
      (ofConfig sites showFailingOnly).map censored := by
  have hblank : (fun site : SiteConfig => Text.isBlankText site.url) ∘ SiteConfig.censored =
      fun site => Text.isBlankText site.url := rfl
  unfold ofConfig
  rw [List.find?_map, hblank]
  cases sites.find? fun site => Text.isBlankText site.url with
  | some site => rfl
  | none =>
    refine congrArg (fun sites => Except.ok (Monitor.mk sites showFailingOnly)) ?_
    rw [List.map_map, List.map_map]
    rfl

theorem ReleaseList.ofConfig_censored (c : ReleasesConfig) :
    ofConfig c.censored = (ofConfig c).map censored := by
  unfold ofConfig ReleasesConfig.censored
  dsimp only
  split
  · rfl
  · cases c.repositories.mapM fun text =>
        (ReleaseEntry.parse text).mapError WidgetFault.badRepository with
    | error => rfl
    | ok entries =>
      cases c.baseUrls.mapM fun p => baseUrl p.1 p.2 with
      | error => rfl
      | ok baseUrls =>
        change (if c.limit.getD defaultLimit = 0 then _ else _) =
          Except.map censored (if c.limit.getD defaultLimit = 0 then _ else _)
        split <;> rfl

theorem Content.ofConfig_censored (config : LeafConfig) :
    ofConfig config.censored = (ofConfig config).map censored := by
  cases config with
  | html | calendar => rfl
  | customApi api =>
    change ofConfig (.customApi api) = _
    unfold ofConfig
    dsimp only
    split <;> rfl
  | monitor sites showFailingOnly =>
    change (Monitor.ofConfig (sites.map SiteConfig.censored) showFailingOnly).map monitor = _
    rw [Monitor.ofConfig_censored]
    unfold ofConfig
    dsimp only
    cases Monitor.ofConfig sites showFailingOnly <;> rfl
  | releases c =>
    change (ReleaseList.ofConfig c.censored).map releases = _
    rw [ReleaseList.ofConfig_censored]
    unfold ofConfig
    dsimp only
    cases ReleaseList.ofConfig c <;> rfl

theorem Leaf.build_censored (last : Nat) (common : CommonConfig) (content : LeafConfig) :
    build last common content.censored =
      ⟨(build last common content).result.map censored, last + 1⟩ := by
  unfold build
  rw [Content.ofConfig_censored, content.kind_censored]
  cases Content.ofConfig content <;> rfl

theorem Group.buildChildren_censored (last position : Nat) (configs : List WidgetConfig) :
    buildChildren last position (WidgetConfig.censoredAll configs) =
      ⟨(buildChildren last position configs).result.map (List.map Leaf.censored),
        (buildChildren last position configs).last⟩ := by
  induction configs generalizing last position with
  | nil => rfl
  | cons c rest ih =>
    cases c with
    | group => rfl
    | leaf common content =>
      unfold WidgetConfig.censoredAll WidgetConfig.censored buildChildren
      rw [Leaf.build_censored, content.kind_censored]
      dsimp only
      rw [ih]
      have hlast : (Leaf.build last common content).last = last + 1 := rfl
      rw [hlast]
      cases (Leaf.build last common content).result with
      | error => rfl
      | ok l => cases (buildChildren (last + 1) (position + 1) rest).result <;> rfl

namespace Widget

/-- The widget without the secrets of its leaves. -/
def censored : Widget → Widget
  | leaf l => leaf l.censored
  | group base children => group base (children.map Leaf.censored)

theorem build_censored (last : Nat) (c : WidgetConfig) :
    build last c.censored = ⟨(build last c).result.map censored, (build last c).last⟩ := by
  cases c with
  | leaf common content =>
    unfold WidgetConfig.censored build
    dsimp only
    rw [Leaf.build_censored]
    cases (Leaf.build last common content).result <;> rfl
  | group common children =>
    unfold WidgetConfig.censored build
    dsimp only
    rw [Group.buildChildren_censored]
    cases (Group.buildChildren (last + 1) 0 children).result <;> rfl

end Widget

namespace Dashboard

/-- The dashboard without its secrets. -/
def censored (d : Dashboard) : Dashboard := { d with widgets := d.widgets.map Widget.censored }

theorem buildFrom_censored (last position : Nat) (configs : List WidgetConfig) :
    buildFrom last position (WidgetConfig.censoredAll configs) =
      (buildFrom last position configs).map (List.map Widget.censored) := by
  induction configs generalizing last position with
  | nil => rfl
  | cons c rest ih =>
    unfold WidgetConfig.censoredAll buildFrom
    rw [Widget.build_censored, c.kind_censored]
    dsimp only
    rw [ih]
    cases (Widget.build last c).result with
    | error => rfl
    | ok w => cases buildFrom (Widget.build last c).last (position + 1) rest <;> rfl

/-- Secrets do not decide whether there is a dashboard, nor what is wrong if there is none. -/
theorem ofConfig_censored (c : DashboardConfig) :
    ofConfig c.censored = (ofConfig c).map censored := by
  unfold ofConfig
  change (buildFrom 0 0 (WidgetConfig.censoredAll c.widgets)).map _ = _
  rw [buildFrom_censored]
  cases buildFrom 0 0 c.widgets <;> rfl

end Dashboard

/-! ## Tokens -/

theorem Content.hasValidTokens_of_ofConfig {config : LeafConfig} {content : Content}
    (hvalid : config.HasValidTokens) (h : ofConfig config = .ok content) :
    content.HasValidTokens := by
  cases config with
  | html | calendar =>
    cases h
    trivial
  | monitor =>
    obtain ⟨m, _, rfl⟩ := exists_of_map_eq_ok h
    trivial
  | customApi api =>
    have hkind := kind_of_ofConfig h
    exact hasValidTokens_of_kind (by rw [hkind]; nofun)
  | releases c =>
    obtain ⟨L, hL, rfl⟩ := exists_of_map_eq_ok h
    exact ReleaseList.haveValidTokens hL hvalid

/-- The tokens that the leaves of a widget have can stand in headers. -/
def Widget.HasValidTokens (w : Widget) : Prop := ∀ l ∈ w.leaves, l.content.HasValidTokens

theorem Widget.hasValidTokens_leaf {l : Leaf} :
    (Widget.leaf l).HasValidTokens ↔ l.content.HasValidTokens := by
  unfold HasValidTokens leaves
  exact List.forall_mem_singleton

theorem Leaf.hasValidTokens_of_build {last : Nat} {common : CommonConfig} {content : LeafConfig}
    {l : Leaf} (hvalid : content.HasValidTokens) (h : (build last common content).result = .ok l) :
    l.content.HasValidTokens := by
  obtain ⟨built, hbuilt, rfl⟩ := exists_of_map_eq_ok h
  exact Content.hasValidTokens_of_ofConfig hvalid hbuilt

theorem Group.hasValidTokens_of_buildChildren {last position : Nat} {configs : List WidgetConfig}
    {children : List Leaf}
    (hvalid : ∀ common content, .leaf common content ∈ configs → content.HasValidTokens)
    (h : (buildChildren last position configs).result = .ok children) :
    ∀ l ∈ children, l.content.HasValidTokens := by
  induction configs generalizing last position children with
  | nil =>
    cases h
    simp
  | cons c rest ih =>
    cases c with
    | group => cases h
    | leaf common content =>
      unfold buildChildren at h
      dsimp only at h
      split at h
      · cases h
      · rename_i l hl
        obtain ⟨others, hothers, rfl⟩ := exists_of_map_eq_ok h
        refine List.forall_mem_cons.2 ⟨?_, ih (fun common content hmem => ?_) hothers⟩
        · have hcontent := hvalid common content List.mem_cons_self
          exact Leaf.hasValidTokens_of_build (l := l) hcontent hl
        · exact hvalid common content (List.mem_cons_of_mem _ hmem)

theorem Widget.hasValidTokens_of_build {last : Nat} {c : WidgetConfig} {w : Widget}
    (hvalid : c.HasValidTokens) (h : (build last c).result = .ok w) : w.HasValidTokens := by
  cases c with
  | leaf common content =>
    obtain ⟨l, hl, rfl⟩ := exists_of_map_eq_ok h
    have hcontent := hvalid _ List.mem_cons_self common content rfl
    exact hasValidTokens_leaf.2 (Leaf.hasValidTokens_of_build hcontent hl)
  | group common configs =>
    obtain ⟨children, hchildren, rfl⟩ := exists_of_map_eq_ok h
    exact Group.hasValidTokens_of_buildChildren (fun common content hmem =>
      hvalid _ (List.mem_cons_of_mem _ hmem) common content rfl) hchildren

namespace Dashboard

/-- The tokens that the dashboard has can stand in headers. -/
def HasValidTokens (d : Dashboard) : Prop := ∀ w ∈ d.widgets, w.HasValidTokens

theorem hasValidTokens_of_buildFrom {last position : Nat} {configs : List WidgetConfig}
    {widgets : List Widget} (hvalid : ∀ c ∈ configs, c.HasValidTokens)
    (h : buildFrom last position configs = .ok widgets) : ∀ w ∈ widgets, w.HasValidTokens := by
  induction configs generalizing last position widgets with
  | nil =>
    cases h
    simp
  | cons c rest ih =>
    obtain ⟨hc, hrest⟩ := List.forall_mem_cons.1 hvalid
    unfold buildFrom at h
    dsimp only at h
    split at h
    · cases h
    · rename_i w hw
      obtain ⟨others, hothers, rfl⟩ := exists_of_map_eq_ok h
      exact List.forall_mem_cons.2 ⟨Widget.hasValidTokens_of_build hc hw, ih hrest hothers⟩

theorem hasValidTokens_of_ofConfig {config : DashboardConfig} {d : Dashboard}
    (hvalid : ∀ entry ∈ config.widgets, entry.HasValidTokens) (h : ofConfig config = .ok d) :
    d.HasValidTokens := by
  obtain ⟨widgets, hwidgets, rfl⟩ := exists_of_map_eq_ok h
  exact hasValidTokens_of_buildFrom hvalid hwidgets

end Dashboard

/-- Updates leave the tokens alone. -/
theorem Leaf.Reaches.hasValidTokens {allowed : Surroundings → Prop} {l l' : Leaf}
    (h : l.Reaches allowed l') (hl : l.content.HasValidTokens) : l'.content.HasValidTokens := by
  induction h with
  | refl => exact hl
  | tail _ hstep ih =>
    obtain ⟨s, _, rfl⟩ := hstep
    exact hasValidTokens_update ih s

theorem WidgetsReach.hasValidTokens {allowed : Surroundings → Prop} {ws ws' : List Widget}
    (h : WidgetsReach allowed ws ws') (hws : ∀ w ∈ ws, w.HasValidTokens) :
    ∀ w ∈ ws', w.HasValidTokens := by
  have hwidget (w w' : Widget) (hw : w.HasValidTokens) (hreaches : w.Reaches allowed w') :
      w'.HasValidTokens ∧ True := by
    refine ⟨fun l' hl' => ?_, trivial⟩
    obtain ⟨l, hl, hleaf⟩ := hreaches.exists_leaf hl'
    exact Leaf.Reaches.hasValidTokens hleaf (hw l hl)
  exact (forall₂_preserves (K := fun _ _ => True) hwidget h hws).1

/-! ## Runs -/

namespace Widget

variable {w : Widget} {s : Surroundings}

theorem isDue_censored (w : Widget) (now : Instant) : w.censored.isDue now = w.isDue now := by
  cases w with
  | leaf l => rfl
  | group base children => exact List.any_map

theorem update_censored (hw : w.HasValidTokens) (hs : s.network.AnswersByUrl) :
    (w.censored.update s).widget = (w.update s).widget.censored := by
  cases w with
  | leaf l =>
    obtain ⟨sent, hsent⟩ := Leaf.update_censored (hasValidTokens_leaf.1 hw) hs
    exact congrArg (fun u => leaf u.leaf) hsent
  | group base children => exact congrArg (group base) (Group.update_censored hs hw)

end Widget

namespace Overlap

def Slot.censored (slot : Slot) : Slot := { slot with widget := slot.widget.censored }

namespace State

/-- The second state is the first without the secrets of its widgets, but may have sent other
requests. -/
structure Censors (st st' : State) : Prop where
  slots_eq : st'.slots = st.slots.map Slot.censored
  visitors_eq : st'.visitors = st.visitors

theorem Censors.visit {st st' : State} (h : st.Censors st') (now : Instant) (sweep : Nat) :
    (st.visit now sweep).Censors (st'.visit now sweep) := by
  unfold State.visit
  rw [h.visitors_eq]
  cases st.visitors[sweep]? with
  | none => exact h
  | some v =>
    dsimp only
    rw [h.slots_eq, List.getElem?_map]
    cases st.slots[v.next]? with
    | none => exact h
    | some slot =>
      dsimp only [Option.map_some]
      have hdue : slot.censored.widget.isDue now = slot.widget.isDue now :=
        slot.widget.isDue_censored now
      have hbusy : slot.censored.busy = slot.busy := rfl
      rw [hdue, hbusy]
      split
      · refine ⟨?_, rfl⟩
        dsimp only
        rw [List.map_set]
        rfl
      · exact ⟨rfl, rfl⟩

theorem Censors.finish {st st' : State} (h : st.Censors st') {s : Surroundings}
    (hs : s.network.AnswersByUrl) (hvalid : ∀ slot ∈ st.slots, slot.widget.HasValidTokens)
    (widget : Nat) : (st.finish widget s).Censors (st'.finish widget s) := by
  unfold State.finish
  rw [h.slots_eq, List.getElem?_map]
  cases hslot : st.slots[widget]? with
  | none => exact h
  | some slot =>
    dsimp only [Option.map_some]
    have hbusy : slot.censored.busy = slot.busy := rfl
    have hupdate : (slot.censored.widget.update s).widget =
        (slot.widget.update s).widget.censored :=
      Widget.update_censored (hvalid slot (List.mem_of_getElem? hslot)) hs
    rw [hbusy, hupdate]
    split
    · refine ⟨?_, h.visitors_eq⟩
      dsimp only
      rw [List.map_set]
      rfl
    · exact h

/-- The tokens that the widgets of the slots have can stand in headers. -/
def HasValidTokens (st : State) : Prop := ∀ w ∈ st.slots.map (·.widget), w.HasValidTokens

theorem HasValidTokens.step {st : State} (h : st.HasValidTokens) (now : Instant) (step : Step) :
    (st.step now step).HasValidTokens := by
  have hreaches : WidgetsReach (fun _ => True) (st.slots.map (·.widget))
      ((st.step now step).slots.map (·.widget)) := st.step_reaches now step fun _ _ _ => trivial
  exact hreaches.hasValidTokens h

theorem Censors.run {st st' : State} (h : st.Censors st') (hvalid : st.HasValidTokens)
    (now : Instant) {steps : List Step}
    (hsteps : ∀ step ∈ steps, ∀ widget s, step = .finish widget s → s.network.AnswersByUrl) :
    (st.run now steps).Censors (st'.run now steps) := by
  induction steps generalizing st st' with
  | nil => exact h
  | cons step steps ih =>
    obtain ⟨hstep, hsteps⟩ := List.forall_mem_cons.1 hsteps
    have hnext : (st.step now step).Censors (st'.step now step) := by
      cases step with
      | visit sweep => exact h.visit now sweep
      | finish widget s =>
        exact h.finish (hstep widget s rfl) (List.forall_mem_map.1 hvalid) widget
    exact ih hnext (hvalid.step now step) hsteps

end State

end Overlap

namespace Dashboard

/-- The network of every update of the event answers by URL. -/
def Event.AnswersByUrl : Event → Prop
  | sweep c _ | sweepIntoShutdown c _ _ => c.network.AnswersByUrl
  | shutdown => True
  | overlap _ _ steps =>
    ∀ step ∈ steps, ∀ widget s, step = .finish widget s → s.network.AnswersByUrl

variable {d : Dashboard}

theorem HasValidTokens.after (hd : d.HasValidTokens) (e : Event) : (d.after e).HasValidTokens := by
  have he : e.Meets fun _ => True := by
    cases e with
    | sweep | shutdown | sweepIntoShutdown => trivial
    | overlap => exact fun _ _ _ _ _ => trivial
  exact (d.after_reaches he).hasValidTokens hd

end Dashboard

end DashboardRefresh
