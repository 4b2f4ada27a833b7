import DashboardRefresh.Proofs.Refresh.Limits
import Mathlib.Order.Bounds.Defs

/-!
# Hour boundaries

The next hourly update falls on the first instant after now at which the local clock shows a full
hour, that is, no minutes, seconds or nanoseconds. The clock may be ahead of universal time, or
behind it, by any number of minutes, so that its full hours need not be those of universal time. The
instant can be computed exactly when the start of the current hour and that of the next one are in
range, which they are two days inside it.
-/

namespace DashboardRefresh

/-- What a clock shows. -/
structure TimeOfDay where
  hour : Nat
  minute : Nat
  second : Nat
  nanos : Nat
  deriving DecidableEq

/-- The clock shows a full hour. -/
def TimeOfDay.IsFullHour (t : TimeOfDay) : Prop := t.minute = 0 ∧ t.second = 0 ∧ t.nanos = 0

instance (t : TimeOfDay) : Decidable t.IsFullHour := inferInstanceAs (Decidable (_ ∧ _ ∧ _))

namespace Instant

/-- One day in nanoseconds. -/
def dayNanos : Int := 24 * 3600 * 1000000000

/-- The instant lies inside the range by `span` nanoseconds at least. -/
def IsInside (span : Int) (i : Instant) : Prop :=
  earliestNanos + span ≤ i.nanos ∧ i.nanos ≤ latestNanos - span

instance (span : Int) (i : Instant) : Decidable (i.IsInside span) :=
  inferInstanceAs (Decidable (_ ∧ _))

/-- What a clock shows that is `offset` minutes ahead of universal time. -/
def timeOfDay (offset : Int) (i : Instant) : TimeOfDay :=
  let nanos := i.nanos + offset * 60 * 1000000000
  { hour := (nanos / (3600 * 1000000000) % 24).toNat
    minute := (nanos / (60 * 1000000000) % 60).toNat
    second := (nanos / 1000000000 % 60).toNat
    nanos := (nanos % 1000000000).toNat }

theorem shift_eq_ok_iff {i j : Instant} {span : Int} :
    i.shift span = .ok j ↔ j.nanos = i.nanos + span := by
  constructor
  · intro h
    unfold shift at h
    split at h
    · rename_i k hk
      obtain rfl : k = j := Except.ok.inj h
      exact ofNanos?_eq_some.1 hk
    · cases h
  · exact shift_eq_ok

end Instant

namespace CachePolicy

variable {offset : Int} {now next : Instant}

/-- The time since the last full hour, by what the clock shows. -/
theorem intoHour_eq_timeOfDay (offset : Int) (now : Instant) :
    intoHour offset now =
      ((now.timeOfDay offset).minute * 60 + (now.timeOfDay offset).second) * 1000000000 +
        (now.timeOfDay offset).nanos := by
  simp only [intoHour, hourNanos, Instant.timeOfDay]
  omega

theorem intoHour_eq_zero_iff :
    intoHour offset now = 0 ↔ (now.timeOfDay offset).IsFullHour := by
  rw [intoHour_eq_timeOfDay]
  unfold TimeOfDay.IsFullHour
  omega

theorem isFullHour_iff_timeOfDay :
    IsFullHour offset now ↔ (now.timeOfDay offset).IsFullHour := by
  rw [← intoHour_eq_zero_iff]
  exact Int.dvd_iff_emod_eq_zero

/-- The start of the next hour is computed from that of the current one, which has to be in range
as well. -/
theorem nextHour_eq_ok_iff :
    nextHour offset now = .ok next ↔
      Instant.earliestNanos ≤ now.nanos - intoHour offset now ∧
        next.nanos = now.nanos - intoHour offset now + hourNanos := by
  have hnonneg : 0 ≤ intoHour offset now := intoHour_nonneg
  have hlatest := now.le_latest
  unfold nextHour
  constructor
  · intro h
    cases hstart : now.shift (-intoHour offset now) with
    | error e =>
      rw [hstart] at h
      cases h
    | ok start =>
      rw [hstart] at h
      have hnext : start.shift hourNanos = .ok next := h
      rw [Instant.shift_eq_ok_iff] at hstart hnext
      have hearliest := start.earliest_le
      omega
  · rintro ⟨hearliest, hnanos⟩
    obtain ⟨start, hstart, heq⟩ :=
      Instant.exists_shift (i := now) (-intoHour offset now) (by omega) (by omega)
    rw [hstart]
    exact Instant.shift_eq_ok (by omega)

/-- Wherever it can be computed, the start of the next hour is the first full hour after now. -/
theorem isRegular_of_nextHour (h : nextHour offset now = .ok next) :
    hourly.IsRegular offset now next := by
  obtain ⟨_, hnanos⟩ := nextHour_eq_ok_iff.1 h
  have hlt : intoHour offset now < hourNanos := intoHour_lt
  refine .hourly ?_ ?_ ?_
  · rw [Instant.lt_def]
    omega
  · unfold IsFullHour
    rw [hnanos]
    unfold intoHour hourNanos
    omega
  · intro other hother hhour
    rw [Instant.lt_def] at hother
    rw [Instant.le_def, hnanos]
    unfold IsFullHour at hhour
    unfold intoHour hourNanos at *
    omega

/-- The start of the next hour is computed for all instants whose hour is in range. -/
theorem exists_nextHour_eq_ok_iff :
    (∃ next, nextHour offset now = .ok next) ↔
      Instant.earliestNanos ≤ now.nanos - intoHour offset now ∧
        now.nanos - intoHour offset now + hourNanos ≤ Instant.latestNanos := by
  have hhour : 0 ≤ hourNanos := by decide
  constructor
  · rintro ⟨next, hnext⟩
    obtain ⟨hearliest, hnanos⟩ := nextHour_eq_ok_iff.1 hnext
    exact ⟨hearliest, hnanos ▸ next.le_latest⟩
  · rintro ⟨hearliest, hlatest⟩
    exact ⟨⟨_, by omega, hlatest⟩, nextHour_eq_ok_iff.2 ⟨hearliest, rfl⟩⟩

/-- The start of the next hour does not go back in time. -/
theorem nextHour_mono {later next' : Instant} (hle : now ≤ later)
    (h : nextHour offset now = .ok next) (h' : nextHour offset later = .ok next') :
    next ≤ next' := by
  cases isRegular_of_nextHour h with
  | hourly _ _ hfirst =>
    cases isRegular_of_nextHour h' with
    | hourly hlt hhour _ =>
      refine hfirst next' ?_ hhour
      rw [Instant.lt_def] at hlt ⊢
      rw [Instant.le_def] at hle
      omega

/-- Two days inside the range, and for every local clock, the next hourly update falls on the least
of the instants after now at which the clock shows a full hour. It is at most an hour away, exactly
an hour if the clock shows a full hour now, and it does not go back in time. -/
theorem nextHour_isLeast_fullHour (offset : Int) {now : Instant}
    (hnow : now.IsInside (2 * Instant.dayNanos)) :
    ∃ next, nextHour offset now = .ok next ∧
      IsLeast {i : Instant | now < i ∧ (i.timeOfDay offset).IsFullHour} next ∧
      (now < next ∧ next.nanos ≤ now.nanos + hourNanos) ∧
      (next.nanos = now.nanos + hourNanos ↔ (now.timeOfDay offset).IsFullHour) ∧
      ∀ later next', now ≤ later → nextHour offset later = .ok next' → next ≤ next' := by
  have hnonneg : 0 ≤ intoHour offset now := intoHour_nonneg
  have hlt : intoHour offset now < hourNanos := intoHour_lt
  have hdays : 2 * Instant.dayNanos = 48 * hourNanos := by decide
  obtain ⟨hearliest, hlatest⟩ := hnow
  obtain ⟨next, hnext⟩ : ∃ next, nextHour offset now = .ok next :=
    exists_nextHour_eq_ok_iff.2 ⟨by omega, by omega⟩
  obtain ⟨_, hnanos⟩ := nextHour_eq_ok_iff.1 hnext
  refine ⟨next, hnext, ?_, ⟨?_, by omega⟩, ?_, fun _ _ hle hnext' => nextHour_mono hle hnext hnext'⟩
  · cases isRegular_of_nextHour hnext with
    | hourly hafter hhour hfirst =>
      refine ⟨⟨hafter, isFullHour_iff_timeOfDay.1 hhour⟩, ?_⟩
      rintro other ⟨hother, hfull⟩
      exact hfirst other hother (isFullHour_iff_timeOfDay.2 hfull)
  · rw [Instant.lt_def]
    omega
  · rw [← intoHour_eq_zero_iff]
    omega

/-- One nanosecond before a quarter to midnight on the last day before the epoch. -/
def quarterToEpoch : Instant := ⟨-900000000001, by decide, by decide⟩

/-- Five hours and three quarters ahead of universal time it is nearly half past five then, and the
next full hour is six. -/
theorem nextHour_isLeast_fullHour_quarterToEpoch :
    quarterToEpoch.IsInside (2 * Instant.dayNanos) ∧
      quarterToEpoch.timeOfDay 345 = ⟨5, 29, 59, 999999999⟩ ∧
      ∃ next, nextHour 345 quarterToEpoch = .ok next ∧ next.nanos = 900000000000 ∧
        IsLeast {i : Instant | quarterToEpoch < i ∧ (i.timeOfDay 345).IsFullHour} next := by
  have hinside : quarterToEpoch.IsInside (2 * Instant.dayNanos) := by decide
  obtain ⟨next, hnext, hleast, _⟩ := nextHour_isLeast_fullHour 345 hinside
  refine ⟨hinside, by decide, next, hnext, ?_, hleast⟩
  obtain ⟨_, hnanos⟩ := nextHour_eq_ok_iff.1 hnext
  rw [hnanos]
  decide

end CachePolicy

end DashboardRefresh
