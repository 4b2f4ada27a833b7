import DashboardRefresh.Refresh.Policy
import DashboardRefresh.Time.Clock

/-!
# Instants with room around them

An instant that lies fifteen days inside the range can be moved by up to fifteen days. The next
regular update after such an instant can be computed under every policy.
-/

namespace DashboardRefresh

/-- The Unix epoch. -/
def Instant.epoch : Instant := ⟨0, by decide, by decide⟩

/-- Fifteen days in nanoseconds. -/
def Instant.margin : Int := 15 * 86400 * 1000000000

/-- The instant lies fifteen days inside the range. -/
def Instant.IsInner (i : Instant) : Prop :=
  earliestNanos + margin ≤ i.nanos ∧ i.nanos ≤ latestNanos - margin

/-- The clock is set to a time fifteen days inside the range of instants, maybe to one before the
epoch, which cannot be read. -/
def Clock.IsInner (c : Clock) : Prop :=
  Instant.earliestNanos + Instant.margin ≤ c.nanos ∧ c.nanos ≤ Instant.latestNanos - Instant.margin

instance (i : Instant) : Decidable i.IsInner := inferInstanceAs (Decidable (_ ∧ _))
instance (c : Clock) : Decidable c.IsInner := inferInstanceAs (Decidable (_ ∧ _))

namespace Instant

theorem shift_eq_ok {i j : Instant} {span : Int} (h : j.nanos = i.nanos + span) :
    i.shift span = .ok j := by
  unfold shift shift?
  rw [ofNanos?_eq_some.2 h]

/-- A move within the range comes about. -/
theorem exists_shift {i : Instant} (span : Int) (hearliest : earliestNanos ≤ i.nanos + span)
    (hlatest : i.nanos + span ≤ latestNanos) :
    ∃ j : Instant, i.shift span = .ok j ∧ j.nanos = i.nanos + span :=
  ⟨⟨i.nanos + span, hearliest, hlatest⟩, shift_eq_ok rfl, rfl⟩

theorem IsInner.exists_shift {i : Instant} (hi : i.IsInner) (span : Int) (hlow : -margin ≤ span)
    (hhigh : span ≤ margin) : ∃ j : Instant, i.shift span = .ok j ∧ j.nanos = i.nanos + span := by
  obtain ⟨hearliest, hlatest⟩ := hi
  apply Instant.exists_shift <;> omega

end Instant

theorem Clock.nanos_of_read {c : Clock} {now : Instant} (h : c.read = .ok now) :
    now.nanos = c.nanos := by
  unfold read at h
  split at h
  · cases h
  · split at h
    · rename_i i hi
      cases h
      exact Instant.ofNanos?_eq_some.1 hi
    · cases h

/-- What an inner clock shows is an inner instant. -/
theorem Clock.IsInner.of_read {c : Clock} {now : Instant} (hc : c.IsInner) (h : c.read = .ok now) :
    now.IsInner := by
  unfold Instant.IsInner
  rw [nanos_of_read h]
  exact hc

namespace CachePolicy

variable {offset : Int} {now : Instant}

theorem intoHour_nonneg : 0 ≤ intoHour offset now := Int.emod_nonneg _ (by decide)

theorem intoHour_lt : intoHour offset now < hourNanos := Int.emod_lt_of_pos _ (by decide)

/-- The next full hour after an inner instant is in range. -/
theorem exists_nextHour (offset : Int) (hnow : now.IsInner) :
    ∃ next : Instant, nextHour offset now = .ok next ∧
      next.nanos = now.nanos - intoHour offset now + hourNanos := by
  have hnonneg : 0 ≤ intoHour offset now := intoHour_nonneg
  have hlt : intoHour offset now < hourNanos := intoHour_lt
  have hhour : hourNanos ≤ Instant.margin := by decide
  obtain ⟨start, hstart, hnanos⟩ := hnow.exists_shift (-intoHour offset now) (by omega)
    (by omega)
  obtain ⟨hearliest, hlatest⟩ := hnow
  obtain ⟨next, hnext, heq⟩ := Instant.exists_shift (i := start) hourNanos
    (by have := start.earliest_le; omega) (by omega)
  refine ⟨next, ?_, by omega⟩
  unfold nextHour
  rw [hstart]
  exact hnext

/-- The next regular update after an inner instant can be computed. -/
theorem exists_nextUpdate (policy : CachePolicy) (offset : Int) (hnow : now.IsInner) :
    ∃ next, policy.nextUpdate offset now = .ok next := by
  cases policy with
  | never => exact ⟨none, rfl⟩
  | fixed every => exact ⟨some (afterFixed every now), rfl⟩
  | hourly =>
    obtain ⟨next, hnext, _⟩ := exists_nextHour offset hnow
    exact ⟨some next, by simp [nextUpdate, hnext, Except.map]⟩

end CachePolicy

end DashboardRefresh
