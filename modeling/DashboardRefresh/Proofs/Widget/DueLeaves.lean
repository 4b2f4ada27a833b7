import DashboardRefresh.Proofs.Refresh.Limits
import DashboardRefresh.Proofs.Widget.Verdicts

/-!
# Which leaves an update picks

An update of a leaf updates it, and an update of a group those of its children that are due by the
clock. None of these updates ends before its time, so that each picked leaf is updated once and the
others stay as they are. Afterwards nothing in the widget is due up to the time that the clock
shows.
-/

namespace DashboardRefresh

namespace Leaf

variable {l : Leaf} {s : Surroundings} {now time : Instant}

theorem isDue_mono (hle : now ≤ time) (hdue : l.isDue now) : l.isDue time :=
  RefreshState.isDue_mono hle hdue

theorem WellFormed.isNever_eq_false (hl : l.WellFormed) (hkind : l.kind ≠ .html) :
    l.base.refresh.policy.isNever = false :=
  eq_false_of_ne_true fun hnever => hkind (hl.isNever_iff.1 hnever)

/-- Static content is never due. -/
theorem WellFormed.kind_ne_of_isDue (hl : l.WellFormed) (hdue : l.isDue now) : l.kind ≠ .html := by
  intro hkind
  have hnever := (RefreshState.isDue_iff.1 hdue).1
  rw [hl.isNever_iff.2 hkind] at hnever
  cases hnever

/-- No update of a leaf ends before its time. -/
theorem halted_update (l : Leaf) (hs : s.Shows time) : (l.update s).halted = false := by
  by_cases hkind : l.kind = .html
  · rw [update_of_html hkind]
    rfl
  · obtain ⟨c, _, hupdate⟩ := update_eq_reported hkind hs
    rw [hupdate]

/-- After an update a leaf is not due up to the time of the update. -/
theorem WellFormed.isDue_update_eq_false (hl : l.WellFormed) (hs : s.Shows time)
    (hle : now ≤ time) : (l.update s).leaf.isDue now = false := by
  by_cases hkind : l.kind = .html
  · rw [update_of_html hkind]
    exact eq_false_of_ne_true fun hdue => hl.kind_ne_of_isDue hdue hkind
  · obtain ⟨c, _, hupdate⟩ := update_eq_reported hkind hs
    rw [hupdate]
    exact RefreshState.isDue_report_eq_false (hl.isNever_eq_false hkind) c.outcome s.offset
      hs.isInner hle

end Leaf

/-! ## Groups -/

/-- So no update of a child ends before its time. -/
theorem Group.not_any_halted {s : Surroundings} {time : Instant} (hs : s.Shows time)
    (children : List Leaf) : ¬ (children.map (·.updateIfDue s time)).any (·.halted) := by
  rw [List.any_map, List.any_eq_true]
  rintro ⟨l, _, hhalts⟩
  rw [Function.comp_apply, Leaf.updateIfDue] at hhalts
  split at hhalts
  · rw [l.halted_update hs] at hhalts
    cases hhalts
  · cases hhalts

/-- The children that are due by the clock are updated, and the others stay. -/
theorem Group.update_eq {s : Surroundings} {time : Instant} (hs : s.Shows time)
    (children : List Leaf) :
    (update s children).1 = children.map (fun l => if l.isDue time then (l.update s).leaf else l) ∧
      (update s children).2.1 =
        children.flatMap fun l => if l.isDue time then (l.update s).sent else [] := by
  unfold update
  rw [hs.read_eq]
  dsimp only
  rw [if_neg (not_any_halted hs children)]
  constructor
  · rw [List.map_map]
    apply List.map_congr_left
    intro l _
    rw [Function.comp_apply, Leaf.updateIfDue]
    split <;> rfl
  · rw [List.flatMap_map]
    apply List.flatMap_congr
    intro l _
    rw [Leaf.updateIfDue]
    split <;> rfl

/-! ## Widgets -/

namespace Widget

/-- The widget with a change to each of its leaves. -/
def mapLeaves (f : Leaf → Leaf) : Widget → Widget
  | leaf l => leaf (f l)
  | group base children => group base (children.map f)

@[simp] theorem leaves_mapLeaves (f : Leaf → Leaf) (w : Widget) :
    (w.mapLeaves f).leaves = w.leaves.map f := by
  cases w <;> rfl

/-- An update of the widget at `time` updates the leaf. -/
def picks (time : Instant) : Widget → Leaf → Bool
  | leaf _, _ => true
  | group .., l => l.isDue time

variable {w : Widget} {s : Surroundings} {now time : Instant}

/-- An update changes the leaves that it picks, and sends their requests. -/
theorem update_eq (w : Widget) (hs : s.Shows time) :
    (w.update s).widget =
        w.mapLeaves (fun l => if w.picks time l then (l.update s).leaf else l) ∧
      (w.update s).sent =
        w.leaves.flatMap fun l => if w.picks time l then (l.update s).sent else [] := by
  cases w with
  | leaf l => simp [update, mapLeaves, picks, leaves]
  | group base children =>
    obtain ⟨hchildren, hsent⟩ := Group.update_eq hs children
    exact ⟨congrArg (group base) hchildren, hsent⟩

/-- After an update no leaf of the widget is due up to the time of the update. -/
theorem WellFormed.isDue_update_eq_false (hw : w.WellFormed) (hs : s.Shows time)
    (hle : now ≤ time) : (w.update s).widget.isDue now = false := by
  rw [(w.update_eq hs).1, isDue, leaves_mapLeaves, List.any_map, List.any_eq_false]
  intro l hl
  rw [Function.comp_apply, Bool.not_eq_true]
  split
  · exact (hw l hl).isDue_update_eq_false hs hle
  · rename_i hpicks
    -- A leaf that is not picked is the child of a group that is not due by the clock.
    cases w with
    | leaf => exact absurd rfl hpicks
    | group => exact eq_false_of_ne_true fun hdue => hpicks (l.isDue_mono hle hdue)

end Widget

end DashboardRefresh
