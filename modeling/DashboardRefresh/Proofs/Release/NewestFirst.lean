import DashboardRefresh.Widget.ReleaseList
import Mathlib.Data.List.Basic
import Mathlib.Data.List.Perm.Basic

/-!
# The newest releases

A release list is put in order by date, the newest first and those without a date last, and releases
of one date stay in the order in which they came. There is only one such order. What a limit leaves
of it is a part of the releases, each of them taken once, and nothing that is left out is newer than
anything that is kept.
-/

namespace DashboardRefresh

namespace Timestamp

theorem before_iff {a b : Timestamp} :
    a.before b ↔ a.second < b.second ∨ a.second = b.second ∧ a.nanos < b.nanos := by
  simp [before]

/-- Of two timestamps one comes before the other. -/
theorem eq_of_not_before {a b : Timestamp} (hab : ¬ a.before b) (hba : ¬ b.before a) : a = b := by
  rw [before_iff] at hab hba
  obtain ⟨second, nanos⟩ := a
  obtain ⟨second', nanos'⟩ := b
  simp only [Timestamp.mk.injEq] at hab hba ⊢
  omega

end Timestamp

namespace Release

/-- The first release has a later date than the second, or a date where the second has none. -/
def IsNewer (a b : Release) : Prop :=
  match a.publishedAt, b.publishedAt with
  | some x, some y => y.before x
  | some _, none => True
  | none, _ => False

variable {a b c : Release}

theorem IsNewer.asymm : a.IsNewer b → ¬ b.IsNewer a := by
  unfold IsNewer
  cases a.publishedAt with
  | none => exact False.elim
  | some x =>
    cases b.publishedAt with
    | none => exact fun _ => not_false
    | some y =>
      simp only [Timestamp.before_iff]
      omega

theorem not_isNewer_trans (hba : ¬ b.IsNewer a) (hcb : ¬ c.IsNewer b) : ¬ c.IsNewer a := by
  unfold IsNewer at *
  cases ha : a.publishedAt <;> cases hb : b.publishedAt <;> cases hc : c.publishedAt <;>
    simp only [ha, hb, hc, not_true, not_false_iff, Timestamp.before_iff] at hba hcb ⊢
  omega

theorem not_isNewer_of_eq (h : a.publishedAt = b.publishedAt) : ¬ a.IsNewer b := by
  intro hnewer
  have hsame : b.IsNewer a := by
    unfold IsNewer at *
    rwa [h] at *
  exact hnewer.asymm hsame

theorem publishedAt_eq_of_not_isNewer (hab : ¬ a.IsNewer b) (hba : ¬ b.IsNewer a) :
    a.publishedAt = b.publishedAt := by
  unfold IsNewer at hab hba
  cases ha : a.publishedAt <;> cases hb : b.publishedAt <;>
    simp only [ha, hb, not_true, not_false_iff] at hab hba ⊢
  exact congrArg some (Timestamp.eq_of_not_before hba hab)

end Release

namespace ReleaseList

theorem mayPrecede_iff {a b : Release} : mayPrecede a b ↔ ¬ b.IsNewer a := by
  unfold mayPrecede Release.IsNewer
  cases a.publishedAt <;> cases b.publishedAt <;> simp

/-- The second list has the releases of the first, the newest first and those of one date in the
order in which the first has them. -/
structure IsNewestFirst (releases sorted : List Release) : Prop where
  perm : sorted.Perm releases
  newest_first : sorted.Pairwise fun a b => ¬ b.IsNewer a
  stable : ∀ date,
    sorted.filter (·.publishedAt = date) = releases.filter (·.publishedAt = date)

variable {releases : List Release}

/-- Lists in that order with the same releases of each date are the same. -/
theorem eq_of_newest_first {xs ys : List Release} (hperm : xs.Perm ys)
    (hxs : xs.Pairwise fun a b => ¬ b.IsNewer a) (hys : ys.Pairwise fun a b => ¬ b.IsNewer a)
    (hdates : ∀ date, xs.filter (·.publishedAt = date) = ys.filter (·.publishedAt = date)) :
    xs = ys := by
  induction xs generalizing ys with
  | nil => exact hperm.nil_eq
  | cons x xs ih =>
    cases ys with
    | nil => exact absurd hperm.symm.nil_eq (List.cons_ne_nil x xs).symm
    | cons y ys =>
      have hnot {l : List Release} {a b : Release}
          (hl : (a :: l).Pairwise fun a b => ¬ b.IsNewer a) (hb : b ∈ a :: l) : ¬ b.IsNewer a := by
        rcases List.mem_cons.1 hb with rfl | hmem
        · exact Release.not_isNewer_of_eq rfl
        · exact (List.pairwise_cons.1 hl).1 b hmem
      -- Both lists begin with one of the newest releases, so that the first ones have one date.
      have hyx : ¬ y.IsNewer x := hnot hxs (hperm.mem_iff.2 List.mem_cons_self)
      have hxy : ¬ x.IsNewer y := hnot hys (hperm.mem_iff.1 List.mem_cons_self)
      have hdate : y.publishedAt = x.publishedAt :=
        Release.publishedAt_eq_of_not_isNewer hyx hxy
      have hfirst := hdates x.publishedAt
      rw [List.filter_cons_of_pos (by simp), List.filter_cons_of_pos (by simp [hdate])] at hfirst
      obtain rfl : x = y := (List.cons.inj hfirst).1
      congr 1
      refine ih (List.perm_cons x |>.1 hperm) (List.pairwise_cons.1 hxs).2
        (List.pairwise_cons.1 hys).2 fun date => ?_
      have hdate' := hdates date
      simp only [List.filter_cons] at hdate'
      split at hdate'
      · exact (List.cons.inj hdate').2
      · exact hdate'

theorem IsNewestFirst.unique {sorted sorted' : List Release} (h : IsNewestFirst releases sorted)
    (h' : IsNewestFirst releases sorted') : sorted = sorted' :=
  eq_of_newest_first (h.perm.trans h'.perm.symm) h.newest_first h'.newest_first
    fun date => (h.stable date).trans (h'.stable date).symm

theorem isNewestFirst_mergeSort (releases : List Release) :
    IsNewestFirst releases (releases.mergeSort mayPrecede) := by
  have htrans (a b c : Release) (hab : mayPrecede a b) (hbc : mayPrecede b c) :
      mayPrecede a c :=
    mayPrecede_iff.2 (Release.not_isNewer_trans (mayPrecede_iff.1 hab) (mayPrecede_iff.1 hbc))
  have htotal (a b : Release) : mayPrecede a b || mayPrecede b a := by
    rw [Bool.or_eq_true, mayPrecede_iff, mayPrecede_iff]
    by_cases hab : a.IsNewer b
    · exact .inl hab.asymm
    · exact .inr hab
  have hperm : (releases.mergeSort mayPrecede).Perm releases := List.mergeSort_perm _ _
  refine ⟨hperm, (List.pairwise_mergeSort htrans htotal releases).imp mayPrecede_iff.1, ?_⟩
  intro date
  -- The releases of one date are in order already, and sorting keeps what is in order.
  have hordered : (releases.filter (·.publishedAt = date)).Pairwise (mayPrecede · ·) := by
    apply List.pairwise_of_forall_mem_list
    intro a ha b hb
    have ha' : a.publishedAt = date := by simpa using (List.mem_filter.1 ha).2
    have hb' : b.publishedAt = date := by simpa using (List.mem_filter.1 hb).2
    exact mayPrecede_iff.2 (Release.not_isNewer_of_eq (hb'.trans ha'.symm))
  have hsublist := (List.sublist_mergeSort htrans htotal hordered List.filter_sublist).filter
    (·.publishedAt = date)
  rw [List.filter_filter] at hsublist
  simp only [Bool.and_self] at hsublist
  exact (hsublist.eq_of_length (hperm.filter _).length_eq.symm).symm

/-- The releases that a limit leaves: the first ones of the newest. -/
structure IsSelection (limit : Nat) (releases kept : List Release) : Prop where
  /-- They are the first ones in the one order in which the newest come first. -/
  exists_sorted : ∃ sorted, IsNewestFirst releases sorted ∧ kept = sorted.take limit ∧
    ∀ other, IsNewestFirst releases other → other = sorted
  /-- They are some of the releases, each taken once, and the others are not newer. -/
  exists_leftOut : ∃ leftOut, (kept ++ leftOut).Perm releases ∧
    ∀ a ∈ leftOut, ∀ b ∈ kept, ¬ a.IsNewer b
  length_eq : kept.length = min limit releases.length
  /-- Those of one date are the first ones of that date, in the order in which they came. -/
  isPrefix_of_date : ∀ date,
    kept.filter (·.publishedAt = date) <+: releases.filter (·.publishedAt = date)

theorem isSelection_select (limit : Nat) (releases : List Release) :
    IsSelection limit releases (select limit releases) := by
  have hsorted := isNewestFirst_mergeSort releases
  have happend : select limit releases ++ (releases.mergeSort mayPrecede).drop limit =
      releases.mergeSort mayPrecede := List.take_append_drop _ _
  refine ⟨⟨_, hsorted, rfl, fun _ hother => hother.unique hsorted⟩,
    ⟨(releases.mergeSort mayPrecede).drop limit, ?_, ?_⟩, ?_, fun date => ?_⟩
  · rw [happend]
    exact hsorted.perm
  · have hpairs := hsorted.newest_first
    rw [← happend, List.pairwise_append] at hpairs
    exact fun a ha b hb => hpairs.2.2 b hb a ha
  · rw [select, List.length_take, hsorted.perm.length_eq]
  · rw [← hsorted.stable date, select]
    exact (List.take_prefix _ _).filter _

end ReleaseList

end DashboardRefresh
