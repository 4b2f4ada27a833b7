import DashboardRefresh.Proofs.Time.Margin
import DashboardRefresh.Widget.Basic
import Mathlib.Data.List.Forall2
import Mathlib.Logic.Relation

/-!
# What updates can lead to

A leaf changes by updates only, and an update of a group leaves each child as it is or updates it,
whether or not some of these updates end early. So a property of leaves that no update breaks holds
for all leaves of a widget that is updated again and again.
-/

namespace DashboardRefresh

/-- The clock of the surroundings lies fifteen days inside the range of instants. -/
def Surroundings.IsInner (s : Surroundings) : Prop := s.clock.IsInner

/-- Some updates lead from the first leaf to the second, all of them in surroundings that are
`allowed`. -/
abbrev Leaf.Reaches (allowed : Surroundings → Prop) : Leaf → Leaf → Prop :=
  Relation.ReflTransGen fun l l' => ∃ s, allowed s ∧ (l.update s).leaf = l'

/-- The second widget is the first one after some updates of its leaves. -/
inductive Widget.Reaches (allowed : Surroundings → Prop) : Widget → Widget → Prop
  | leaf {l l' : Leaf} (hl : l.Reaches allowed l') : Reaches allowed (.leaf l) (.leaf l')
  | group {base : WidgetBase} {children children' : List Leaf}
      (hchildren : List.Forall₂ (Leaf.Reaches allowed) children children') :
      Reaches allowed (.group base children) (.group base children')

variable {allowed : Surroundings → Prop} {s : Surroundings}

theorem forall₂_trans {α : Type} {R : α → α → Prop} (hR : ∀ a b c, R a b → R b c → R a c)
    {as bs cs : List α} (hab : List.Forall₂ R as bs) (hbc : List.Forall₂ R bs cs) :
    List.Forall₂ R as cs := by
  induction hab generalizing cs with
  | nil => exact hbc
  | cons h _ ih =>
    obtain ⟨c, cs', h', hbc', rfl⟩ := List.forall₂_cons_left_iff.1 hbc
    exact .cons (hR _ _ _ h h') (ih hbc')

/-- What one step preserves and relates, it preserves and relates throughout a list. -/
theorem forall₂_preserves {α : Type} {P : α → Prop} {R K : α → α → Prop}
    (hR : ∀ a b, P a → R a b → P b ∧ K a b) {as bs : List α} (h : List.Forall₂ R as bs)
    (has : ∀ a ∈ as, P a) : (∀ b ∈ bs, P b) ∧ List.Forall₂ K as bs := by
  induction h with
  | nil => exact ⟨has, .nil⟩
  | cons hab _ ih =>
    obtain ⟨hb, hK⟩ := hR _ _ (has _ List.mem_cons_self) hab
    obtain ⟨hbs, hKs⟩ := ih fun a ha => has a (List.mem_cons_of_mem _ ha)
    exact ⟨List.forall_mem_cons.2 ⟨hb, hbs⟩, .cons hK hKs⟩

/-! ## Groups -/

namespace Group

/-- What has become of a child while the updates of a group are settled: its update is still open,
it has come about, or it has not. -/
inductive Settled : Pending → Pending ⊕ Leaf → Prop
  | pending {p : Pending} : Settled p (.inl p)
  | updated {p : Pending} : Settled p (.inr p.update.leaf)
  | before {p : Pending} : Settled p (.inr p.before)

/-- The child as it was, or after its update. -/
def Either (p : Pending) (l : Leaf) : Prop := l = p.before ∨ l = p.update.leaf

theorem runOffline_settled (updates : List Pending) :
    List.Forall₂ Settled updates (runOffline updates).1 := by
  induction updates with
  | nil => exact .nil
  | cons p updates ih =>
    unfold runOffline
    split
    · exact .cons .pending ih
    · split
      · refine .cons .updated ?_
        rw [List.forall₂_map_right_iff]
        exact List.forall₂_same.2 fun _ _ => .before
      · exact .cons .updated ih

theorem Settled.cutOff {p : Pending} {r : Pending ⊕ Leaf} (h : Settled p r) (limit : Nat) :
    Either p (cutOff limit r) := by
  cases h with
  | pending =>
    change Either p (if p.update.waited < limit then p.update.leaf else p.before)
    split
    · exact .inr rfl
    · exact .inl rfl
  | updated => exact .inr rfl
  | before => exact .inl rfl

theorem cutOff_either {updates : List Pending} {rest : List (Pending ⊕ Leaf)}
    (h : List.Forall₂ Settled updates rest) (limit : Nat) :
    List.Forall₂ Either updates (rest.map (cutOff limit)) := by
  rw [List.forall₂_map_right_iff]
  exact h.imp fun _ _ hsettled => hsettled.cutOff limit

theorem runConnected_either {updates : List Pending} {rest : List (Pending ⊕ Leaf)}
    (h : List.Forall₂ Settled updates rest) (limit : Nat) :
    List.Forall₂ Either updates (runConnected limit rest) := by
  induction h with
  | nil => exact .nil
  | cons hsettled hrest ih =>
    cases hsettled with
    | pending =>
      unfold runConnected
      split
      · refine .cons (.inr rfl) ?_
        split
        · exact cutOff_either hrest limit
        · exact ih
      · exact .cons (Settled.pending.cutOff limit) ih
    | updated => exact .cons (.inr rfl) ih
    | before => exact .cons (.inl rfl) ih

/-- However the updates are settled, each of them comes about or does not. -/
theorem settle_either (updates : List Pending) :
    List.Forall₂ Either updates (settle updates).1 := by
  have hoffline := runOffline_settled updates
  unfold settle
  dsimp only
  split
  · exact cutOff_either hoffline 0
  · exact runConnected_either hoffline _

/-- Each child stays as it is or is updated once. -/
theorem update_children (s : Surroundings) (children : List Leaf) :
    List.Forall₂ (fun l l' => l' = l ∨ l' = (l.update s).leaf) children
      (update s children).1 := by
  have hdue (now : Instant) (l : Leaf) :
      (l.updateIfDue s now).leaf = l ∨ (l.updateIfDue s now).leaf = (l.update s).leaf := by
    unfold Leaf.updateIfDue
    split
    · exact .inr rfl
    · exact .inl rfl
  unfold update
  split
  · exact List.forall₂_same.2 fun _ _ => .inl rfl
  · rename_i now _
    dsimp only
    split
    · have hpending : List.zipWith Pending.mk children (children.map (·.updateIfDue s now)) =
          children.map fun l => ⟨l, l.updateIfDue s now⟩ := by
        rw [List.zipWith_map_right, List.zipWith_self]
      have hsettle := settle_either (children.map fun l => ⟨l, l.updateIfDue s now⟩)
      rw [List.forall₂_map_left_iff] at hsettle
      rw [hpending]
      refine hsettle.imp fun l l' heither => ?_
      rcases heither with rfl | rfl
      · exact .inl rfl
      · exact hdue now l
    · rw [List.map_map, List.forall₂_map_right_iff]
      exact List.forall₂_same.2 fun l _ => hdue now l

end Group

/-! ## Widgets -/

namespace Widget

theorem Reaches.refl (w : Widget) : w.Reaches allowed w := by
  cases w with
  | leaf l => exact .leaf .refl
  | group base children => exact .group (List.forall₂_same.2 fun _ _ => .refl)

theorem Reaches.trans {u v w : Widget} (huv : u.Reaches allowed v) (hvw : v.Reaches allowed w) :
    u.Reaches allowed w := by
  cases huv with
  | leaf hl =>
    cases hvw with
    | leaf hl' => exact .leaf (hl.trans hl')
  | group hchildren =>
    cases hvw with
    | group hchildren' =>
      exact .group (forall₂_trans (fun _ _ _ h h' => h.trans h') hchildren hchildren')

/-- An update of a widget updates some of its leaves. -/
theorem reaches_update (w : Widget) (hs : allowed s) : w.Reaches allowed (w.update s).widget := by
  cases w with
  | leaf l => exact .leaf (.single ⟨s, hs, rfl⟩)
  | group base children =>
    refine .group ((Group.update_children s children).imp ?_)
    rintro l l' (rfl | rfl)
    · exact .refl
    · exact .single ⟨s, hs, rfl⟩

end Widget

end DashboardRefresh
