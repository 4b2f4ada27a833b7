import DashboardRefresh.Proofs.Board.Building
import DashboardRefresh.Proofs.Board.Runs
import DashboardRefresh.Proofs.Widget.Agreement

/-!
# Agreement over whole runs

A widget that has just been built is sound, and no event takes that away. So in every run of a
dashboard the content flags and the data agree at every step, and content that was once available
stays so.
-/

namespace DashboardRefresh

/-! ## Built widgets -/

theorem ne_nil_of_mapM_eq_ok {ε α β : Type} {f : α → Except ε β} {xs : List α} {ys : List β}
    (h : xs.mapM f = .ok ys) (hne : xs ≠ []) : ys ≠ [] := by
  cases xs with
  | nil => exact absurd rfl hne
  | cons x xs =>
    rw [List.mapM_cons] at h
    cases hx : f x with
    | error e =>
      rw [hx] at h
      cases h
    | ok y =>
      rw [hx] at h
      obtain ⟨zs, _, hzs⟩ := exists_of_bind_eq_ok (x := xs.mapM f) h
      cases hzs
      simp

theorem ReleaseList.of_ofConfig {c : ReleasesConfig} {l : ReleaseList} (h : ofConfig c = .ok l) :
    l.entries ≠ [] ∧ l.limit ≠ 0 ∧ l.releases = [] := by
  unfold ofConfig at h
  split at h
  · cases h
  · rename_i hempty
    obtain ⟨entries, hentries, h⟩ := exists_of_bind_eq_ok h
    obtain ⟨baseUrls, _, h⟩ := exists_of_bind_eq_ok h
    dsimp only at h
    split at h
    · cases h
    · rename_i hlimit
      cases h
      exact ⟨ne_nil_of_mapM_eq_ok hentries (by simpa using hempty), hlimit, rfl⟩

/-- The content of an entry has none of its data yet, unless it is static. -/
theorem Content.of_ofConfig {config : LeafConfig} {content : Content}
    (h : Content.ofConfig config = .ok content) :
    content.IsValid ∧ if content.kind.isStatic then content.IsFilled else content.IsBare := by
  cases config with
  | html source =>
    cases h
    exact ⟨trivial, trivial⟩
  | calendar startSunday =>
    cases h
    exact ⟨trivial, rfl⟩
  | monitor sites showFailingOnly =>
    obtain ⟨m, hm, rfl⟩ := exists_of_map_eq_ok h
    refine ⟨trivial, ?_⟩
    unfold Monitor.ofConfig at hm
    split at hm
    · cases hm
    · cases hm
      intro site hsite
      obtain ⟨_, _, rfl⟩ := List.mem_map.1 hsite
      rfl
  | customApi api =>
    simp only [ofConfig] at h
    split at h
    · cases h
    · cases h
      exact ⟨trivial, rfl⟩
  | releases c =>
    obtain ⟨l, hl, rfl⟩ := exists_of_map_eq_ok h
    obtain ⟨hentries, hlimit, hreleases⟩ := ReleaseList.of_ofConfig hl
    exact ⟨⟨hentries, hlimit⟩, hreleases⟩

theorem Content.isStatic_kind {content : Content} (h : content.kind ≠ .html) :
    content.kind.isStatic = false := by
  cases content with
  | html => exact absurd rfl h
  | calendar | monitor | customApi | releases => rfl

theorem Leaf.IsBuilt.sound {l : Leaf} (hl : l.IsBuilt) : l.Sound := by
  obtain ⟨id, common, config, hcontent, hbase⟩ := hl
  obtain ⟨hvalid, hdata⟩ := Content.of_ofConfig hcontent
  have hkind : l.kind = config.kind := Content.kind_of_ofConfig hcontent
  have hrefresh : l.base.refresh =
      { RefreshState.initial (config.kind.defaultPolicy.override common.cache) with
        contentAvailable := l.kind.isStatic } := by
    rw [hbase, hkind]
    exact WidgetBase.ofConfig_refresh id config.kind common
  change if l.kind.isStatic then l.content.IsFilled else l.content.IsBare at hdata
  exact
    { isValid := hvalid
      isFilled := by
        rw [hrefresh]
        intro hstatic
        rwa [if_pos hstatic] at hdata
      isBare := by
        rw [hrefresh]
        intro hstatic
        dsimp only at hstatic
        rwa [hstatic] at hdata
      lastUpdated_iff := by
        rw [hrefresh]
        intro hhtml
        have hstatic : l.kind.isStatic = false := Content.isStatic_kind hhtml
        simp [hstatic, RefreshState.initial]
      error_or_notice_eq_none := by
        rw [hrefresh]
        exact .inl rfl
      lastNotice_eq := by
        rw [hrefresh]
        intro _
        rfl }

/-! ## Widgets -/

/-- The base of a widget that has content, and neither an error nor a notice. -/
structure WidgetBase.IsCalm (base : WidgetBase) : Prop where
  contentAvailable : base.refresh.contentAvailable
  lastError_eq : base.refresh.lastError = none
  lastNotice_eq : base.refresh.lastNotice = none

namespace Widget

/-- All leaves of the widget have a property, and a group itself is calm. -/
def Throughout (P : Leaf → Prop) : Widget → Prop
  | leaf l => P l
  | group base children => base.IsCalm ∧ ∀ l ∈ children, P l

theorem Throughout.imp {P Q : Leaf → Prop} (hPQ : ∀ l, P l → Q l) {w : Widget}
    (hw : w.Throughout P) : w.Throughout Q := by
  cases w with
  | leaf l => exact hPQ l hw
  | group base children =>
    obtain ⟨hbase, hchildren⟩ := hw
    exact ⟨hbase, fun l hl => hPQ l (hchildren l hl)⟩

/-- The second widget may come after the first: content is not lost, and static content and the base
of a group are never touched. -/
inductive Keeps : Widget → Widget → Prop
  | leaf {l l' : Leaf} (hl : l.Keeps l') : Keeps (.leaf l) (.leaf l')
  | group {base : WidgetBase} {children children' : List Leaf}
      (hchildren : List.Forall₂ Leaf.Keeps children children') :
      Keeps (.group base children) (.group base children')

theorem IsBuilt.sound {w : Widget} (hw : w.IsBuilt) : w.Throughout Leaf.Sound := by
  cases hw with
  | leaf hl => exact hl.sound
  | @group id common children hchildren =>
    have hbase : (WidgetBase.ofConfig id .group common).IsCalm := by
      constructor <;> rw [WidgetBase.ofConfig_refresh] <;> rfl
    exact ⟨hbase, fun l hl => (hchildren l hl).sound⟩

/-- Updates under inner clocks keep a widget sound, and keep what it shows. -/
theorem Throughout.reaches {w w' : Widget} (hw : w.Throughout Leaf.Sound)
    (h : w.Reaches Surroundings.IsInner w') : w'.Throughout Leaf.Sound ∧ w.Keeps w' := by
  cases h with
  | leaf hl =>
    obtain ⟨hsound, hkeeps⟩ := Leaf.Sound.reaches hw hl
    exact ⟨hsound, .leaf hkeeps⟩
  | group hchildren =>
    obtain ⟨hbase, hsound⟩ := hw
    obtain ⟨hsound', hkeeps⟩ := forall₂_preserves (P := Leaf.Sound) (K := Leaf.Keeps)
      (fun _ _ hl hl' => hl.reaches hl') hchildren hsound
    exact ⟨⟨hbase, hsound'⟩, .group hkeeps⟩

end Widget

theorem WidgetsReach.sound {ws ws' : List Widget} (h : WidgetsReach Surroundings.IsInner ws ws')
    (hws : ∀ w ∈ ws, w.Throughout Leaf.Sound) :
    (∀ w ∈ ws', w.Throughout Leaf.Sound) ∧ List.Forall₂ Widget.Keeps ws ws' :=
  forall₂_preserves (P := Widget.Throughout Leaf.Sound) (K := Widget.Keeps)
    (fun _ _ hw hw' => hw.reaches hw') h hws

/-! ## What soundness says -/

/-- The flag agrees with the data. The sites of a monitor either all have a status or all have
none. -/
def Content.AgreesWith (available : Bool) : Content → Prop
  | html _ => available
  | calendar _ grid => available ↔ grid.isSome
  | monitor m =>
    m.sites ≠ [] →
      (available ↔ ∀ site ∈ m.sites, site.status.isSome) ∧
      ((∀ site ∈ m.sites, site.status.isSome) ∨ ∀ site ∈ m.sites, site.status = none)
  | customApi _ document => available ↔ document.isSome
  | releases l => available ↔ l.releases ≠ []

/-- The flag agrees with the data, and all but static content says when it was last updated exactly
if it has the flag. There is never both an error and a notice, and a notice about releases only. -/
structure Leaf.Agrees (l : Leaf) : Prop where
  content : l.content.AgreesWith l.base.refresh.contentAvailable
  lastUpdated_iff : l.kind ≠ .html →
    (l.base.refresh.lastUpdated.isSome ↔ l.base.refresh.contentAvailable)
  not_error_and_notice : ¬ (l.base.refresh.lastError.isSome ∧ l.base.refresh.lastNotice.isSome)
  kind_of_notice : l.base.refresh.lastNotice.isSome → l.kind = .releases

theorem Content.agreesWith {content : Content} {available : Bool}
    (hfilled : available → content.IsFilled) (hbare : available = false → content.IsBare) :
    content.AgreesWith available := by
  cases available with
  | true =>
    have hdata := hfilled rfl
    cases content with
    | html => rfl
    | calendar startSunday grid => exact iff_of_true rfl hdata
    | monitor m => exact fun _ => ⟨iff_of_true rfl hdata, .inl hdata⟩
    | customApi api document => exact iff_of_true rfl hdata
    | releases l => exact iff_of_true rfl hdata
  | false =>
    have hdata := hbare rfl
    cases content with
    | html => exact hdata.elim
    | calendar startSunday grid =>
      obtain rfl : grid = none := hdata
      exact iff_of_false (by decide) (by decide)
    | monitor m =>
      intro hsites
      obtain ⟨site, hsite⟩ := List.exists_mem_of_ne_nil _ hsites
      refine ⟨iff_of_false (by decide) fun hall => ?_, .inr hdata⟩
      have hsome := hall site hsite
      rw [hdata site hsite] at hsome
      cases hsome
    | customApi api document =>
      obtain rfl : document = none := hdata
      exact iff_of_false (by decide) (by decide)
    | releases l => exact iff_of_false (by decide) (not_not_intro hdata)

theorem Leaf.Sound.agrees {l : Leaf} (hl : l.Sound) : l.Agrees where
  content := Content.agreesWith hl.isFilled hl.isBare
  lastUpdated_iff := hl.lastUpdated_iff
  not_error_and_notice := by
    rintro ⟨herror, hnotice⟩
    rcases hl.error_or_notice_eq_none with hnone | hnone
    · rw [hnone] at herror
      cases herror
    · rw [hnone] at hnotice
      cases hnotice
  kind_of_notice hnotice := by
    by_contra hkind
    rw [hl.lastNotice_eq hkind] at hnotice
    cases hnotice

/-! ## Runs -/

namespace Dashboard

variable {config : DashboardConfig} {d : Dashboard}

/-- At every step of a run of a new dashboard, with the clock fifteen days inside the range of
instants, the flags of all leaves agree with their data. From each step to each later one no widget
loses its content, and static widgets and groups stay as they are. -/
theorem ofConfig_run_agrees (hd : ofConfig config = .ok d) (earlier later : List Event)
    (hevents : ∀ e ∈ earlier ++ later, e.IsInner) :
    (∀ w ∈ (d.run earlier).widgets, w.Throughout Leaf.Agrees) ∧
      List.Forall₂ Widget.Keeps (d.run earlier).widgets (d.run (earlier ++ later)).widgets := by
  have hbuilt : ∀ w ∈ d.widgets, w.Throughout Leaf.Sound := by
    intro w hw
    exact (isBuilt_of_ofConfig hd w hw).sound
  have hearlier := d.run_reaches earlier fun e he => hevents e (List.mem_append_left later he)
  obtain ⟨hsound, _⟩ := WidgetsReach.sound hearlier hbuilt
  have hlater := (d.run earlier).run_reaches later
    fun e he => hevents e (List.mem_append_right earlier he)
  obtain ⟨_, hkeeps⟩ := WidgetsReach.sound hlater hsound
  constructor
  · intro w hw
    exact (hsound w hw).imp fun _ hl => hl.agrees
  · rw [run_append]
    exact hkeeps

/-- A calendar, and a group of a note and a custom API. -/
def almanac : DashboardConfig :=
  let common : CommonConfig := ⟨none, none, false, none, none⟩
  { tickInterval := .ofSeconds 1
    requestTimeout := .ofSeconds 10
    widgets := [.leaf common (.calendar false),
      .group common
        [.leaf common (.html "note"), .leaf common (.customApi ⟨"http://a.test", [], none⟩)]] }

/-- A sweep at the epoch without a network. -/
def firstSweep : Event := .sweep ⟨.setTo .epoch, 0, .unreachable, fun _ => true⟩ .epoch

/-- Without a network the calendar and the note have content, and the API has an error. -/
theorem ofConfig_run_agrees_almanac :
    ∃ d, ofConfig almanac = .ok d ∧ (∀ e ∈ [firstSweep] ++ [.shutdown], e.IsInner) ∧
      (∀ w ∈ (d.run [firstSweep]).widgets, w.Throughout Leaf.Agrees) ∧
      (d.run [firstSweep]).widgets.map (·.leaves.map (·.base.refresh.contentAvailable)) =
        [[true], [true, false]] ∧
      (d.run [firstSweep]).widgets.map (·.leaves.map (·.base.refresh.lastError.isSome)) =
        [[false], [false, true]] := by
  obtain ⟨d, hd⟩ : ∃ d, ofConfig almanac = .ok d := ⟨_, rfl⟩
  have hevents : ∀ e ∈ [firstSweep] ++ [.shutdown], e.IsInner := by
    rw [List.singleton_append, List.forall_mem_cons, List.forall_mem_singleton]
    refine ⟨?_, trivial⟩
    change Clock.IsInner (.setTo .epoch)
    decide
  have hagrees := (ofConfig_run_agrees hd [firstSweep] [.shutdown] hevents).1
  cases hd
  exact ⟨_, rfl, hevents, hagrees, rfl, rfl⟩

end Dashboard

end DashboardRefresh
