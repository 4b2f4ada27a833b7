import DashboardRefresh.Proofs.Widget.Cycles
import DashboardRefresh.Proofs.Widget.Reachable

/-!
# The content flag and the data

The flag that content is available is set by a report, and the data are stored next to it. A leaf is
sound when both say the same: either the flag is set and all data are there, or it is not and there
are none. An update under an inner clock keeps a leaf sound, because a cycle that keeps its data has
all of them, and because its report comes to its end.
-/

namespace DashboardRefresh

namespace Leaf

/-- The flag, the data and the other marks of the last updates agree. -/
structure Sound (l : Leaf) : Prop where
  isValid : l.content.IsValid
  isFilled : l.base.refresh.contentAvailable → l.content.IsFilled
  isBare : l.base.refresh.contentAvailable = false → l.content.IsBare
  lastUpdated_iff : l.kind ≠ .html →
    (l.base.refresh.lastUpdated.isSome ↔ l.base.refresh.contentAvailable)
  error_or_notice_eq_none :
    l.base.refresh.lastError = none ∨ l.base.refresh.lastNotice = none
  lastNotice_eq : l.kind ≠ .releases → l.base.refresh.lastNotice = none

/-- The second leaf may come after the first: content is not lost, and static content is never
touched. -/
structure Keeps (l l' : Leaf) : Prop where
  kind_eq : l'.kind = l.kind
  contentAvailable : l.base.refresh.contentAvailable → l'.base.refresh.contentAvailable
  refresh_eq : l.kind = .html → l'.base.refresh = l.base.refresh

theorem Keeps.refl (l : Leaf) : l.Keeps l := ⟨rfl, id, fun _ => rfl⟩

theorem Keeps.trans {k l m : Leaf} (hkl : k.Keeps l) (hlm : l.Keeps m) : k.Keeps m where
  kind_eq := hlm.kind_eq.trans hkl.kind_eq
  contentAvailable h := hlm.contentAvailable (hkl.contentAvailable h)
  refresh_eq h := (hlm.refresh_eq (hkl.kind_eq.trans h)).trans (hkl.refresh_eq h)

variable {l : Leaf} {s : Surroundings}

/-- The leaf after the report of a cycle at `now` that came to its end. -/
def reported (l : Leaf) (offset : Int) (c : Cycle) (now : Instant) : Leaf where
  base := { l.base with refresh := (l.base.refresh.report c.outcome offset now).state }
  content := if c.outcome.keepsData then c.content else l.content

theorem finish_leaf (hs : s.IsInner) (c : Cycle) :
    (l.finish s c).leaf = l ∨ ∃ now, (l.finish s c).leaf = l.reported s.offset c now := by
  unfold finish
  cases hread : s.clock.read with
  | error => exact .inl rfl
  | ok now =>
    -- The report comes to its end, so that the data are stored exactly if they are kept.
    have hcomplete := l.base.refresh.report_complete c.outcome s.offset (hs.of_read hread)
    refine .inr ⟨now, ?_⟩
    simp [hcomplete, reported]

/-- An update leaves the leaf alone, or reports one cycle that completes its content. -/
theorem update_leaf (hs : s.IsInner) (hvalid : l.content.IsValid) :
    (l.update s).leaf = l ∨
      ∃ c now, c.Completes l.content ∧ l.kind ≠ .html ∧
        (l.update s).leaf = l.reported s.offset c now := by
  unfold update
  cases hcycle : l.cycle s with
  | none => exact .inl rfl
  | some r =>
    cases r with
    | error => exact .inl rfl
    | ok c =>
      rcases l.finish_leaf hs c with hsame | ⟨now, hnow⟩
      · exact .inl hsame
      · refine .inr ⟨c, now, Content.cycle_completes hvalid hcycle, ?_, hnow⟩
        intro hkind
        unfold kind at hkind
        unfold cycle at hcycle
        cases hcontent : l.content with
        | html source =>
          rw [hcontent] at hcycle
          cases hcycle
        | calendar | monitor | customApi | releases =>
          rw [hcontent] at hkind
          cases hkind

theorem reported_kind {c : Cycle} (hc : c.Completes l.content) (offset : Int) (now : Instant) :
    (l.reported offset c now).kind = l.kind := by
  unfold kind reported
  dsimp only
  split
  · exact hc.kind_eq
  · rfl

/-- A report of a cycle keeps a leaf sound: if the data are kept they are all there and the flag is
set, and otherwise neither has changed. -/
theorem Sound.reported (hl : l.Sound) {c : Cycle} (hc : c.Completes l.content) (offset : Int)
    (now : Instant) : (l.reported offset c now).Sound := by
  have hkind := reported_kind hc offset now
  have hnever : (l.reported offset c now).base.refresh.lastError = none ∨
      (l.reported offset c now).base.refresh.lastNotice = none := by
    simpa [Leaf.reported] using c.outcome.error?_eq_none_or_notice?_eq_none
  have hnotice : (l.reported offset c now).kind ≠ .releases →
      (l.reported offset c now).base.refresh.lastNotice = none := by
    intro h
    rw [hkind] at h
    exact RefreshState.report_lastNotice.trans (hc.notice?_eq h)
  cases hkeeps : c.outcome.keepsData with
  | true =>
    have hcontent : (l.reported offset c now).content = c.content := by
      simp [Leaf.reported, hkeeps]
    exact
      { isValid := hcontent ▸ hc.isValid
        isFilled := fun _ => hcontent ▸ hc.isFilled hkeeps
        isBare := by simp [Leaf.reported, hkeeps]
        lastUpdated_iff := by simp [Leaf.reported, hkeeps]
        error_or_notice_eq_none := hnever
        lastNotice_eq := hnotice }
  | false =>
    have hcontent : (l.reported offset c now).content = l.content := by
      simp [Leaf.reported, hkeeps]
    have havailable : (l.reported offset c now).base.refresh.contentAvailable =
        l.base.refresh.contentAvailable := by
      simp [Leaf.reported, hkeeps]
    have hupdated : (l.reported offset c now).base.refresh.lastUpdated =
        l.base.refresh.lastUpdated := by
      simp [Leaf.reported, hkeeps]
    exact
      { isValid := hcontent ▸ hl.isValid
        isFilled := by
          rw [hcontent, havailable]
          exact hl.isFilled
        isBare := by
          rw [hcontent, havailable]
          exact hl.isBare
        lastUpdated_iff := by
          rw [hkind, havailable, hupdated]
          exact hl.lastUpdated_iff
        error_or_notice_eq_none := hnever
        lastNotice_eq := hnotice }

theorem keeps_reported {c : Cycle} (hc : c.Completes l.content) (hkind : l.kind ≠ .html)
    (offset : Int) (now : Instant) : l.Keeps (l.reported offset c now) where
  kind_eq := reported_kind hc offset now
  contentAvailable h := by simp [reported, h]
  refresh_eq h := absurd h hkind

/-- One update keeps a leaf sound, and keeps what it shows. -/
theorem Sound.update (hl : l.Sound) (hs : s.IsInner) :
    (l.update s).leaf.Sound ∧ l.Keeps (l.update s).leaf := by
  rcases update_leaf hs hl.isValid with hsame | ⟨c, now, hc, hkind, heq⟩
  · rw [hsame]
    exact ⟨hl, .refl l⟩
  · rw [heq]
    exact ⟨hl.reported hc s.offset now, keeps_reported hc hkind s.offset now⟩

/-- So do any number of updates. -/
theorem Sound.reaches (hl : l.Sound) {l' : Leaf} (h : l.Reaches Surroundings.IsInner l') :
    l'.Sound ∧ l.Keeps l' := by
  induction h with
  | refl => exact ⟨hl, .refl l⟩
  | tail _ hstep ih =>
    obtain ⟨hsound, hkeeps⟩ := ih
    obtain ⟨s, hs, rfl⟩ := hstep
    obtain ⟨hsound', hkeeps'⟩ := hsound.update hs
    exact ⟨hsound', hkeeps.trans hkeeps'⟩

end Leaf

end DashboardRefresh
