import DashboardRefresh.Proofs.Refresh.HourBoundaries

/-!
# Room for a report

A report comes to its end exactly when its date arithmetic stays in the range of instants. A fixed
policy is cut at the last instant and always has room; the retry after a failure and the hours of an
hourly policy are not cut. The retry is computed under every policy, so that near the end of the
range even a state that is never updated cannot take a failure. A report without room has recorded
its outcome and leaves the old next update behind.
-/

namespace DashboardRefresh

namespace CachePolicy

variable {policy : CachePolicy} {offset : Int} {now : Instant}

/-- The current local hour, and the start of the next one, are in range if the policy is hourly. -/
def HasHour (policy : CachePolicy) (offset : Int) (now : Instant) : Prop :=
  policy = hourly →
    Instant.earliestNanos ≤ now.nanos - intoHour offset now ∧
      now.nanos - intoHour offset now + hourNanos ≤ Instant.latestNanos

theorem exists_nextUpdate_iff :
    (∃ next, policy.nextUpdate offset now = .ok next) ↔ policy.HasHour offset now := by
  cases policy with
  | never => exact ⟨fun _ => nofun, fun _ => ⟨none, rfl⟩⟩
  | fixed every => exact ⟨fun _ => nofun, fun _ => ⟨some (afterFixed every now), rfl⟩⟩
  | hourly =>
    have hroom : hourly.HasHour offset now ↔ ∃ next, nextHour offset now = .ok next := by
      rw [exists_nextHour_eq_ok_iff]
      exact ⟨fun h => h rfl, fun h _ => h⟩
    rw [hroom]
    unfold nextUpdate
    cases nextHour offset now <;> simp [Except.map]

/-- The next regular update is not before now, and only a policy that asks for none has none. -/
theorem le_of_nextUpdate {next : Option Instant} (h : policy.nextUpdate offset now = .ok next) :
    if policy.isNever then next = none else ∃ regular, next = some regular ∧ now ≤ regular := by
  cases policy with
  | never =>
    cases h
    rfl
  | fixed every =>
    cases h
    have hregular : (fixed every).IsRegular offset now (afterFixed every now) :=
      .fixed (afterFixed_nanos every now)
    exact ⟨afterFixed every now, rfl, hregular.le⟩
  | hourly =>
    unfold nextUpdate at h
    cases hnext : nextHour offset now with
    | error e =>
      rw [hnext] at h
      cases h
    | ok regular =>
      rw [hnext] at h
      cases h
      exact ⟨regular, rfl, (isRegular_of_nextHour hnext).le⟩

end CachePolicy

namespace RefreshState

/-- The nanoseconds to the retry after one more failure. -/
def retryNanos (s : RefreshState) : Nat := min (s.retryCount + 1) 5 ^ 2 * 60 * 1000000000

/-- All date arithmetic of a report stays in range. -/
structure HasRoom (s : RefreshState) (outcome : Outcome) (offset : Int) (now : Instant) :
    Prop where
  retry_le : outcome.isFailure → now.nanos + s.retryNanos ≤ Instant.latestNanos
  hasHour : s.policy.HasHour offset now

/-- The second state is the first one with the outcome recorded, whatever its next update is. -/
structure Records (outcome : Outcome) (now : Instant) (s s' : RefreshState) : Prop where
  policy_eq : s'.policy = s.policy
  lastError_eq : s'.lastError = outcome.error?
  lastNotice_eq : s'.lastNotice = outcome.notice?
  retryCount_eq :
    s'.retryCount = if outcome.isFailure then min (s.retryCount + 1) 5 else 0
  contentAvailable_eq : s'.contentAvailable = (outcome.keepsData || s.contentAvailable)
  lastUpdated_eq : s'.lastUpdated = if outcome.keepsData then some now else s.lastUpdated

/-- The state has the next update that its policy calls for: none, or one that is not before now. -/
def IsScheduled (s : RefreshState) (now : Instant) : Prop :=
  if s.policy.isNever then s.nextUpdate = none else ∃ next, s.nextUpdate = some next ∧ now ≤ next

variable {s : RefreshState} {outcome : Outcome} {offset : Int} {now : Instant}

theorem countFailure_retryMinutes :
    (s.countFailure.retryMinutes * 60 * 1000000000 : Int) = s.retryNanos := by
  simp only [retryMinutes, countFailure, maxRetryCount, retryNanos]
  push_cast
  ring

theorem schedule_of_success :
    (s.record .success now).schedule .success offset now = s.policy.nextUpdate offset now := rfl

/-- The schedule of a failure is made of the retry and the regular update. -/
theorem schedule_eq_ok_iff_of_isFailure (hfailure : outcome.isFailure) {next : Option Instant} :
    (s.record outcome now).schedule outcome offset now = .ok next ↔
      ∃ early usual, now.shift s.retryNanos = .ok early ∧
        s.policy.nextUpdate offset now = .ok usual ∧ next = usual.map (min early) := by
  rw [schedule_of_isFailure hfailure, countFailure_retryMinutes]
  cases now.shift s.retryNanos with
  | error => simp [bind, Except.bind]
  | ok early =>
    cases s.policy.nextUpdate offset now with
    | error => simp [bind, Except.bind]
    | ok usual => simp [bind, Except.bind, pure, Except.pure, eq_comm]

theorem exists_schedule_iff :
    (∃ next, (s.record outcome now).schedule outcome offset now = .ok next) ↔
      s.HasRoom outcome offset now := by
  cases houtcome : outcome.isFailure with
  | false =>
    obtain rfl : outcome = .success := by cases outcome <;> first | rfl | cases houtcome
    rw [schedule_of_success, CachePolicy.exists_nextUpdate_iff]
    exact ⟨fun h => ⟨nofun, h⟩, fun h => h.hasHour⟩
  | true =>
    constructor
    · rintro ⟨next, hnext⟩
      obtain ⟨early, usual, hearly, husual, _⟩ :=
        (schedule_eq_ok_iff_of_isFailure houtcome).1 hnext
      refine ⟨fun _ => ?_, CachePolicy.exists_nextUpdate_iff.1 ⟨usual, husual⟩⟩
      rw [← Instant.shift_eq_ok_iff.1 hearly]
      exact early.le_latest
    · intro hroom
      have hearliest := now.earliest_le
      obtain ⟨early, hearly, _⟩ := Instant.exists_shift (i := now) s.retryNanos
        (by omega) (hroom.retry_le houtcome)
      obtain ⟨usual, husual⟩ := CachePolicy.exists_nextUpdate_iff.2 hroom.hasHour
      exact ⟨_, (schedule_eq_ok_iff_of_isFailure houtcome).2 ⟨early, usual, hearly, husual, rfl⟩⟩

theorem report_complete_iff :
    (s.report outcome offset now).complete ↔
      ∃ next, (s.record outcome now).schedule outcome offset now = .ok next := by
  unfold report
  dsimp only
  cases (s.record outcome now).schedule outcome offset now <;> simp

theorem report_records (s : RefreshState) (outcome : Outcome) (offset : Int) (now : Instant) :
    Records outcome now s (s.report outcome offset now).state :=
  ⟨report_policy, report_lastError, report_lastNotice, report_retryCount,
    report_contentAvailable, report_lastUpdated⟩

/-- A retry comes after now, and so does the earlier one of it and a later update. -/
theorem isScheduled_report {next : Option Instant}
    (hnext : (s.record outcome now).schedule outcome offset now = .ok next) :
    (s.report outcome offset now).state.IsScheduled now := by
  unfold IsScheduled
  rw [report_policy, report_nextUpdate hnext]
  cases houtcome : outcome.isFailure with
  | false =>
    obtain rfl : outcome = .success := by cases outcome <;> first | rfl | cases houtcome
    exact CachePolicy.le_of_nextUpdate hnext
  | true =>
    obtain ⟨early, usual, hearly, husual, rfl⟩ :=
      (schedule_eq_ok_iff_of_isFailure houtcome).1 hnext
    have hnanos := Instant.shift_eq_ok_iff.1 hearly
    have hregular := CachePolicy.le_of_nextUpdate husual
    split
    · rename_i hnever
      rw [if_pos hnever] at hregular
      rw [hregular]
      rfl
    · rename_i hnever
      rw [if_neg hnever] at hregular
      obtain ⟨regular, rfl, hle⟩ := hregular
      refine ⟨min early regular, rfl, ?_⟩
      rw [Instant.le_def] at hle ⊢
      rw [Instant.nanos_min]
      omega

/-- A report that does not come to its end leaves the next update as it was. -/
theorem report_nextUpdate_of_not_complete
    (h : ¬ (s.report outcome offset now).complete) :
    (s.report outcome offset now).state.nextUpdate = s.nextUpdate := by
  have hschedule := mt report_complete_iff.2 h
  unfold report
  dsimp only
  cases hnext : (s.record outcome now).schedule outcome offset now with
  | ok next => exact absurd ⟨next, hnext⟩ hschedule
  | error => cases outcome <;> rfl

/-- No retry is more than 25 minutes away. -/
theorem retryNanos_le (s : RefreshState) : s.retryNanos ≤ 25 * 60 * 1000000000 := by
  have hcount : min (s.retryCount + 1) 5 ^ 2 ≤ 5 ^ 2 :=
    Nat.pow_le_pow_left (Nat.min_le_right _ _) 2
  unfold retryNanos
  omega

/-- An instant that lies an hour inside the range leaves room for every report. -/
theorem hasRoom_of_isInside (s : RefreshState) (outcome : Outcome) (offset : Int)
    (hnow : now.IsInside CachePolicy.hourNanos) : s.HasRoom outcome offset now := by
  have hhour : CachePolicy.hourNanos = 3600 * 1000000000 := rfl
  have hnonneg : 0 ≤ CachePolicy.intoHour offset now := CachePolicy.intoHour_nonneg
  have hlt : CachePolicy.intoHour offset now < CachePolicy.hourNanos := CachePolicy.intoHour_lt
  have hretry := s.retryNanos_le
  obtain ⟨hearliest, hlatest⟩ := hnow
  exact ⟨fun _ => by omega, fun _ => ⟨by omega, by omega⟩⟩

/-- Without full hours to keep, only the retry after a failure needs room. -/
theorem hasRoom_of_ne_hourly (hpolicy : s.policy ≠ .hourly)
    (hretry : outcome.isFailure → now.nanos + 25 * 60 * 1000000000 ≤ Instant.latestNanos) :
    s.HasRoom outcome offset now := by
  have hle := s.retryNanos_le
  exact ⟨fun hfailure => by have := hretry hfailure; omega, fun hhourly => absurd hhourly hpolicy⟩

/-- Every report, to any state and at any instant, records its outcome. It comes to its end exactly
if its date arithmetic stays in range, and then the state has the next update that its policy calls
for; otherwise it still has the one from before. An hour inside the range there is always room. -/
theorem report_complete_iff_hasRoom (s : RefreshState) (outcome : Outcome) (offset : Int)
    (now : Instant) :
    Records outcome now s (s.report outcome offset now).state ∧
      ((s.report outcome offset now).complete ↔ s.HasRoom outcome offset now) ∧
      (if (s.report outcome offset now).complete then
        (s.report outcome offset now).state.IsScheduled now
      else (s.report outcome offset now).state.nextUpdate = s.nextUpdate) ∧
      (now.IsInside CachePolicy.hourNanos → s.HasRoom outcome offset now) := by
  refine ⟨report_records s outcome offset now, report_complete_iff.trans exists_schedule_iff, ?_,
    hasRoom_of_isInside s outcome offset⟩
  split
  · rename_i hcomplete
    obtain ⟨next, hnext⟩ := report_complete_iff.1 hcomplete
    exact isScheduled_report hnext
  · rename_i hcomplete
    exact report_nextUpdate_of_not_complete hcomplete

/-- At the last instant a state that is never updated records the first half of a failure: the
retry, which it has no use for, is out of range. -/
theorem report_not_complete_latest :
    ¬ ∀ (policy : CachePolicy) (marked : Bool) (h : History) (s : RefreshState),
      (start policy marked).absorb h = some s → ∀ outcome offset now,
        (s.report outcome offset now).complete := by
  intro hclaim
  have hcomplete := hclaim .never false [] (start .never false) rfl
    (.totalFailure (.noContent "down")) 0 .latest
  have hroom := exists_schedule_iff.1 (report_complete_iff.1 hcomplete)
  exact absurd (hroom.retry_le rfl) (by decide)

end RefreshState

end DashboardRefresh
