import DashboardRefresh.Proofs.Refresh.Limits

/-!
# Fixed intervals

Date arithmetic has two limits of its own: the longest span that it takes, and the last instant.
A fixed policy falls back on the one where a duration is too long to be a span, and on the other
where the sum is out of range. The statements here say that both fallbacks together are exact: the
next update is the duration after now, to the nanosecond, or the last instant if that comes first.
All seconds that are computed on the way are words, whether the sum is in range or not.
-/

namespace DashboardRefresh

/-- The whole number is a word with a sign. -/
def Word.IsSigned (n : Int) : Prop := -Word.signedLimit ≤ n ∧ n < Word.signedLimit

/-! ## Spans -/

namespace Duration

/-- The duration as a span of date arithmetic, unless it is too long for one. -/
def span? (d : Duration) : Option Nat :=
  if d.toNanos ≤ CachePolicy.longestSpan then some d.toNanos else none

/-- The duration as a span, or the longest one there is. -/
def span (d : Duration) : Nat := d.span?.getD CachePolicy.longestSpan

theorem span?_eq_none_iff {d : Duration} :
    d.span? = none ↔ CachePolicy.longestSpan < d.toNanos := by
  unfold span?
  rw [ite_eq_right_iff, ← not_le]
  exact imp_congr_right fun _ => by simp

theorem span_eq_min (d : Duration) : d.span = min d.toNanos CachePolicy.longestSpan := by
  unfold span span?
  split
  · rename_i hle
    exact (min_eq_left hle).symm
  · rename_i hlt
    exact (min_eq_right (not_le.1 hlt).le).symm

theorem span_le (d : Duration) : d.span ≤ CachePolicy.longestSpan := by
  rw [span_eq_min]
  exact min_le_right _ _

end Duration

/-! ## Updates a fixed time later -/

namespace CachePolicy

variable {every longer : Duration} {now later : Instant}

/-- The update is the span after now, with the last instant in its place out of range. -/
theorem afterFixed_eq_getD (every : Duration) (now : Instant) :
    afterFixed every now = (now.shift? every.span).getD Instant.latest := by
  rw [Duration.span_eq_min]
  rfl

theorem le_afterFixed (every : Duration) (now : Instant) : now ≤ afterFixed every now := by
  have hregular : (fixed every).IsRegular 0 now (afterFixed every now) :=
    .fixed (afterFixed_nanos every now)
  exact hregular.le

theorem afterFixed_mono (hevery : every.toNanos ≤ longer.toNanos) (hnow : now ≤ later) :
    afterFixed every now ≤ afterFixed longer later := by
  rw [Instant.le_def] at hnow ⊢
  calc
    (afterFixed every now).nanos = min (now.nanos + every.toNanos) Instant.latestNanos :=
      afterFixed_nanos every now
    _ ≤ min (later.nanos + longer.toNanos) Instant.latestNanos := by
      apply min_le_min_right
      apply add_le_add hnow
      exact_mod_cast hevery
    _ = (afterFixed longer later).nanos := (afterFixed_nanos longer later).symm

/-- From every instant the longest span leads out of range, and a longer duration all the more. -/
theorem afterFixed_eq_latest (hevery : every.span? = none) (now : Instant) :
    afterFixed every now = Instant.latest := by
  have hlong := Duration.span?_eq_none_iff.1 hevery
  have hrange : Instant.latestNanos - Instant.earliestNanos < longestSpan := by decide
  have hearliest := now.earliest_le
  ext
  rw [afterFixed_nanos]
  apply min_eq_right
  omega

/-- The whole seconds of the span are a word. -/
theorem isSigned_span (every : Duration) : Word.IsSigned ((every.span : Int) / 1000000000) := by
  have hspan := every.span_le
  unfold longestSpan Word.signedLimit at hspan
  unfold Word.IsSigned Word.signedLimit
  omega

/-- The second in which the sum lies is a word, also if the sum is no instant. -/
theorem isSigned_sum (every : Duration) (now : Instant) :
    Word.IsSigned ((now.nanos + every.span) / 1000000000) := by
  have hspan := every.span_le
  have hearliest := now.earliest_le
  have hlatest := now.le_latest
  unfold longestSpan Word.signedLimit at hspan
  unfold Instant.earliestNanos at hearliest
  unfold Instant.latestNanos at hlatest
  unfold Word.IsSigned Word.signedLimit
  omega

/-- A fixed policy has a next update after every instant and for every duration: the duration after
now, to the nanosecond, or the last instant if that comes first. No second on the way there is too
large for a word. The update is not before now, it is not earlier for a later instant or a longer
duration, and it is the last instant for each duration that is too long for date arithmetic. -/
theorem nextUpdate_fixed_saturates (every : Duration) (offset : Int) (now : Instant) :
    ∃ next, (fixed every).nextUpdate offset now = .ok (some next) ∧
      next = (now.shift? every.span).getD Instant.latest ∧
      next.nanos = min (now.nanos + every.toNanos) Instant.latestNanos ∧
      (Word.IsSigned ((every.span : Int) / 1000000000) ∧
        Word.IsSigned ((now.nanos + every.span) / 1000000000)) ∧
      now ≤ next ∧
      (∀ (longer : Duration) (later next' : Instant),
        every.toNanos ≤ longer.toNanos → now ≤ later →
          (fixed longer).nextUpdate offset later = .ok (some next') → next ≤ next') ∧
      (every.span? = none → next = Instant.latest) := by
  refine ⟨afterFixed every now, rfl, afterFixed_eq_getD every now, afterFixed_nanos every now,
    ⟨isSigned_span every, isSigned_sum every now⟩, le_afterFixed every now, ?_,
    fun hevery => afterFixed_eq_latest hevery now⟩
  intro longer later next' hevery hnow hnext
  have hafter : afterFixed longer later = next' := Option.some.inj (Except.ok.inj hnext)
  rw [← hafter]
  exact afterFixed_mono hevery hnow

/-- A duration of one second and two nanoseconds. -/
def secondAndMore : Duration := ⟨1, 2, by decide, by decide⟩

/-- The longest duration there is. -/
def longestDuration : Duration := ⟨18446744073709551615, 999999999, by decide, by decide⟩

/-- One second and a nanosecond before the epoch. -/
def secondToEpoch : Instant := ⟨-1000000001, by decide, by decide⟩

/-- A second and two nanoseconds later it is one nanosecond after the epoch. The longest duration is
no span, and leads to the last instant from there. -/
theorem nextUpdate_fixed_saturates_epoch :
    secondAndMore.toNanos ≤ longestDuration.toNanos ∧ longestDuration.span? = none ∧
      ∃ next last, (fixed secondAndMore).nextUpdate 0 secondToEpoch = .ok (some next) ∧
        (fixed longestDuration).nextUpdate 0 secondToEpoch = .ok (some last) ∧
        next.nanos = 1 ∧ last = Instant.latest ∧ next ≤ last := by
  have hlonger : secondAndMore.toNanos ≤ longestDuration.toNanos := by decide
  have hspan : longestDuration.span? = none := by decide
  obtain ⟨next, hnext, _, hnanos, _, _, hmono, _⟩ :=
    nextUpdate_fixed_saturates secondAndMore 0 secondToEpoch
  obtain ⟨last, hlast, _, _, _, _, _, hlatest⟩ :=
    nextUpdate_fixed_saturates longestDuration 0 secondToEpoch
  have hone : next.nanos = 1 := hnanos.trans (by decide)
  exact ⟨hlonger, hspan, next, last, hnext, hlast, hone, hlatest hspan,
    hmono longestDuration secondToEpoch last hlonger (Int.le_refl _) hlast⟩

end CachePolicy

end DashboardRefresh
