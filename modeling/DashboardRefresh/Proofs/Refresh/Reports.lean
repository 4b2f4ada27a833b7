import DashboardRefresh.Proofs.Time.Margin
import DashboardRefresh.Refresh.State

/-!
# Reports

What outcomes say, and what a report of one changes in a refresh state, whether or not the next
update can be computed. After an inner instant it can.
-/

namespace DashboardRefresh

namespace Outcome

def isFailure : Outcome → Bool
  | success => false
  | _ => true

/-- The error of a total failure. -/
def error? : Outcome → Option FetchError
  | totalFailure error => some error
  | _ => none

/-- The notice of a partial failure. -/
def notice? : Outcome → Option FetchError
  | partialFailure notice => some notice
  | _ => none

/-- No outcome has both an error and a notice. -/
theorem error?_eq_none_or_notice?_eq_none (outcome : Outcome) :
    outcome.error? = none ∨ outcome.notice? = none := by
  cases outcome with
  | success => exact .inl rfl
  | partialFailure => exact .inl rfl
  | totalFailure => exact .inr rfl

/-- A failure is an outcome with an error or a notice. -/
theorem isFailure_eq_false_iff (outcome : Outcome) :
    outcome.isFailure = false ↔ outcome.error? = none ∧ outcome.notice? = none := by
  cases outcome <;> simp [isFailure, error?, notice?]

end Outcome

namespace RefreshState

variable {s : RefreshState} {outcome : Outcome} {offset : Int} {now : Instant}

/-- The failures counted after one more are not more than five. -/
theorem countFailure_retryMinutes_le : s.countFailure.retryMinutes ≤ 25 := by
  have hcount : s.countFailure.retryCount ≤ 5 := Nat.min_le_right _ _
  calc
    s.countFailure.retryMinutes ≤ 5 * 5 := Nat.mul_le_mul hcount hcount
    _ = 25 := rfl

/-- After a failure the next update is the earlier of the retry and the regular one. -/
theorem schedule_of_isFailure (hfailure : outcome.isFailure) :
    (s.record outcome now).schedule outcome offset now = do
      let early ← now.shift (s.countFailure.retryMinutes * 60 * 1000000000)
      let usual ← s.policy.nextUpdate offset now
      return usual.map (min early) := by
  cases outcome with
  | success => cases hfailure
  | partialFailure | totalFailure => rfl

/-- After an inner instant the next update can be computed. -/
theorem exists_schedule (s : RefreshState) (outcome : Outcome) (offset : Int)
    (hnow : now.IsInner) :
    ∃ next, (s.record outcome now).schedule outcome offset now = .ok next := by
  cases outcome with
  | success => exact CachePolicy.exists_nextUpdate _ offset hnow
  | partialFailure | totalFailure =>
    have hmargin : Instant.margin = 15 * 86400 * 1000000000 := rfl
    have hminutes : s.countFailure.retryMinutes ≤ 25 := countFailure_retryMinutes_le
    obtain ⟨early, hearly, _⟩ :=
      hnow.exists_shift (s.countFailure.retryMinutes * 60 * 1000000000) (by omega) (by omega)
    obtain ⟨usual, husual⟩ := s.policy.exists_nextUpdate offset hnow
    refine ⟨usual.map (min early), ?_⟩
    rw [schedule_of_isFailure rfl, hearly, husual]
    rfl

theorem report_complete (s : RefreshState) (outcome : Outcome) (offset : Int)
    (hnow : now.IsInner) : (s.report outcome offset now).complete := by
  obtain ⟨next, hnext⟩ := exists_schedule s outcome offset hnow
  simp only [report, hnext]

/-- A report records its outcome, and nothing else but the next update. -/
theorem exists_report_state (s : RefreshState) (outcome : Outcome) (offset : Int) (now : Instant) :
    ∃ next, (s.report outcome offset now).state =
      { s.record outcome now with nextUpdate := next } := by
  unfold report
  dsimp only
  cases (s.record outcome now).schedule outcome offset now with
  | ok next => exact ⟨next, rfl⟩
  | error => exact ⟨_, rfl⟩

@[simp] theorem report_policy : (s.report outcome offset now).state.policy = s.policy := by
  obtain ⟨next, heq⟩ := exists_report_state s outcome offset now
  rw [heq]
  cases outcome <;> rfl

@[simp] theorem report_contentAvailable :
    (s.report outcome offset now).state.contentAvailable =
      (outcome.keepsData || s.contentAvailable) := by
  obtain ⟨next, heq⟩ := exists_report_state s outcome offset now
  rw [heq]
  cases outcome <;> rfl

@[simp] theorem report_lastUpdated :
    (s.report outcome offset now).state.lastUpdated =
      if outcome.keepsData then some now else s.lastUpdated := by
  obtain ⟨next, heq⟩ := exists_report_state s outcome offset now
  rw [heq]
  cases outcome <;> rfl

@[simp] theorem report_retryCount :
    (s.report outcome offset now).state.retryCount =
      if outcome.isFailure then s.countFailure.retryCount else 0 := by
  obtain ⟨next, heq⟩ := exists_report_state s outcome offset now
  rw [heq]
  cases outcome <;> rfl

@[simp] theorem report_lastError :
    (s.report outcome offset now).state.lastError = outcome.error? := by
  obtain ⟨next, heq⟩ := exists_report_state s outcome offset now
  rw [heq]
  cases outcome <;> rfl

@[simp] theorem report_lastNotice :
    (s.report outcome offset now).state.lastNotice = outcome.notice? := by
  obtain ⟨next, heq⟩ := exists_report_state s outcome offset now
  rw [heq]
  cases outcome <;> rfl

/-- The next update of a report that comes to its end is the one scheduled. -/
theorem report_nextUpdate {next : Option Instant}
    (hnext : (s.record outcome now).schedule outcome offset now = .ok next) :
    (s.report outcome offset now).state.nextUpdate = next := by
  unfold report
  dsimp only
  rw [hnext]

end RefreshState

end DashboardRefresh
