import DashboardRefresh.Proofs.Fetch.Attempts

/-!
# Verdicts on fetches

An update ends in one of three ways. For a batch of attempts that was not interrupted the way is
decided by the results alone, by whether all of them, some or none are values; the pool that made
the attempts has no part in it. A batch that was cancelled before it began has no content, unless
there was nothing to attempt.
-/

namespace DashboardRefresh

/-- The three ways for an update to end. -/
inductive Verdict where
  | success
  | partialFailure
  | totalFailure
  deriving DecidableEq

namespace Verdict

/-- The verdict on some results: all of them, some or none are values. -/
def ofResults {ε α : Type} (results : List (Except ε α)) : Verdict :=
  if results.all (·.isOk) then success
  else if results.any (·.isOk) then partialFailure
  else totalFailure

end Verdict

namespace Outcome

def verdict : Outcome → Verdict
  | success => .success
  | partialFailure _ => .partialFailure
  | totalFailure _ => .totalFailure

theorem keepsData_iff (outcome : Outcome) :
    outcome.keepsData ↔ outcome.verdict ≠ .totalFailure := by
  cases outcome <;> simp [keepsData, verdict]

end Outcome

variable {ε α : Type}

namespace Batch

variable {b : Batch ε α} {what : String}

theorem verdict_classify_of_interrupted (h : b.interrupted ≠ none) :
    (Outcome.ofResult (b.classify what)).verdict = .totalFailure := by
  obtain ⟨cause, hcause⟩ := Option.ne_none_iff_exists'.1 h
  simp [classify, hcause, Outcome.ofResult, FetchError.isPartial, Outcome.verdict]

/-- The verdict on a batch that was not interrupted is decided by the number of its failures. -/
theorem verdict_classify (h : b.interrupted = none) :
    (Outcome.ofResult (b.classify what)).verdict =
      if b.failedCount = 0 then .success
      else if b.failedCount = b.size then .totalFailure
      else .partialFailure := by
  rcases Nat.eq_zero_or_pos b.failedCount with hzero | hpos
  · have hnot : ¬ (0 < b.size ∧ 0 = b.size) := by omega
    simp [classify, h, hzero, hnot, Outcome.ofResult, Outcome.verdict]
  · rw [if_neg hpos.ne']
    by_cases hall : b.failedCount = b.size
    · have hsize : 0 < b.size := hall ▸ hpos
      simp [classify, h, hall, hsize, Outcome.ofResult, FetchError.isPartial, Outcome.verdict]
    · simp [classify, h, hall, hpos, Outcome.ofResult, FetchError.isPartial, Outcome.verdict]

end Batch

section Runs

variable {workers : Nat} {attempts : List (Attempt (Except ε α))}

theorem runAttempts_never_interrupted :
    (runAttempts workers .never attempts).batch.interrupted = none := by
  have hresult : ∀ task ∈ attempts.map Attempt.task, task.ending.IsResult := by
    intro task htask
    obtain ⟨a, _, rfl⟩ := List.mem_map.1 htask
    exact a.task_isResult
  obtain ⟨report, hreturned, hbatch⟩ :=
    (Job.ofAttempts workers attempts).execute_never_batch hresult
  unfold runAttempts
  rw [hreturned]
  dsimp only
  rw [hbatch, Batch.inTurn_interrupted]

theorem runAttempts_before_interrupted (hne : attempts ≠ []) :
    (runAttempts workers .before attempts).batch.interrupted ≠ none := by
  have hinputs : (Job.ofAttempts workers attempts).inputs ≠ [] := hne
  unfold runAttempts
  rw [Job.execute_before hinputs]
  exact Option.some_ne_none _

theorem runAttempts_nil (cancellation : Cancellation) :
    (runAttempts workers cancellation ([] : List (Attempt (Except ε α)))).batch.interrupted =
      none := by
  have hinputs : (Job.ofAttempts workers ([] : List (Attempt (Except ε α)))).inputs = [] := rfl
  unfold runAttempts
  rw [Job.execute_nil hinputs]
  rfl

variable {cancellation : Cancellation}

/-- The failures of a batch that was not interrupted are the results that are no values. -/
theorem runAttempts_failedCount
    (hnone : (runAttempts workers cancellation attempts).batch.interrupted = none) :
    (runAttempts workers cancellation attempts).batch.failedCount =
      (attempts.map (·.result)).countP fun r => !r.isOk := by
  rw [runAttempts_batch hnone, Batch.failedCount, Batch.inTurn_errors, List.countP_map,
    List.countP_map, List.countP_map]
  apply List.countP_congr
  intro a _
  have h := Attempt.task_error?_eq_none (a := a)
  cases hok : a.result.isOk <;> simp [hok, Option.isSome_iff_ne_none, h]

/-- The verdict on such a batch is that on its results. -/
theorem runAttempts_verdict (what : String)
    (hnone : (runAttempts workers cancellation attempts).batch.interrupted = none) :
    (Outcome.ofResult ((runAttempts workers cancellation attempts).batch.classify what)).verdict =
      .ofResults (attempts.map (·.result)) := by
  have hsize : (runAttempts workers cancellation attempts).batch.size =
      (attempts.map (·.result)).length := by
    rw [Batch.size, runAttempts_outputs hnone, List.length_map, List.length_map]
  rw [Batch.verdict_classify hnone, runAttempts_failedCount hnone, hsize]
  unfold Verdict.ofResults
  generalize attempts.map (·.result) = results
  have hzero : (results.countP fun r => !r.isOk) = 0 ↔ results.all (·.isOk) := by
    simp [List.countP_eq_zero]
  have hall : (results.countP fun r => !r.isOk) = results.length ↔ ¬ results.any (·.isOk) := by
    simp [List.countP_eq_length]
  by_cases hok : results.all (·.isOk)
  · rw [if_pos (hzero.2 hok), if_pos hok]
  · rw [if_neg (mt hzero.1 hok), if_neg hok]
    by_cases hany : results.any (·.isOk)
    · rw [if_neg fun h => hall.1 h hany, if_pos hany]
    · rw [if_pos (hall.2 hany), if_neg hany]

theorem runAttempts_kept
    (hnone : (runAttempts workers cancellation attempts).batch.interrupted = none) :
    (runAttempts workers cancellation attempts).batch.kept =
      (attempts.map (·.result)).filterMap (·.toOption) := by
  rw [Batch.kept, runAttempts_outputs hnone, List.filterMap_map, List.filterMap_map]
  rfl

end Runs

end DashboardRefresh
