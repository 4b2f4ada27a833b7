import DashboardRefresh.Fetch.Batch
import DashboardRefresh.Proofs.Pool.Cancellation
import DashboardRefresh.Proofs.Refresh.Reports

/-!
# Batches of attempts

Attempts never crash, so a job of attempts always returns. A cancellation that comes before the last
attempt is handed over is recorded in the batch, and makes the whole update a total failure. A batch
without that record holds the results of all attempts, and such a batch is a total failure only when
there are attempts and all of them fail.
-/

namespace DashboardRefresh

variable {ι ε α : Type}

/-- A job without crashes returns, and a batch that was not interrupted is that of running all tasks
one after the other. -/
theorem Job.exists_execute (job : Job ι ε α)
    (hresult : ∀ task ∈ job.inputs.map job.task, task.ending.IsResult)
    (cancellation : Cancellation) :
    ∃ report, job.execute cancellation = .returned report ∧
      (report.batch.interrupted = none →
        report.batch = Batch.inTurn (job.inputs.map job.task)) := by
  by_cases hnil : job.inputs = []
  · refine ⟨_, execute_nil hnil cancellation, fun _ => ?_⟩
    rw [hnil]
    rfl
  have hne : job.inputs.map job.task ≠ [] := by simpa using hnil
  cases cancellation with
  | never =>
    obtain ⟨report, hreturned, hbatch⟩ := execute_never_batch _ hresult
    exact ⟨report, hreturned, fun _ => hbatch⟩
  | before => exact ⟨_, execute_before hnil, fun h => by cases h⟩
  | atMillis c =>
    obtain ⟨_, cut, _, hcut, k, _, _, _, _, hbatch, _⟩ :=
      Pool.execute_cut hresult hne (workers_pos hnil) c
    refine ⟨cut, (execute_atMillis_eq_pool _ c).trans hcut, fun hnone => ?_⟩
    have hk : ¬ k < (job.inputs.map job.task).length := by
      intro hlt
      rw [hbatch] at hnone
      simp only [if_pos hlt] at hnone
      cases hnone
    calc
      cut.batch = Batch.ofRecorded (job.inputs.map job.task) (fun i => i < k) := by
        rw [hbatch, if_neg hk]
        rfl
      _ = Batch.ofRecorded (job.inputs.map job.task) (fun _ => true) := by
        apply Batch.ofRecorded_congr
        intro i hi
        simp only [decide_eq_true_eq]
        omega
      _ = Batch.inTurn (job.inputs.map job.task) := Batch.inTurn_eq.symm

namespace Attempt

variable {a : Attempt (Except ε α)}

theorem task_isResult : a.task.ending.IsResult := by
  unfold task
  cases a.result <;> trivial

theorem task_value? : a.task.ending.value? = a.result.toOption := by
  unfold task
  cases a.result <;> rfl

theorem task_error?_eq_none : a.task.ending.error? = none ↔ a.result.isOk := by
  unfold task
  cases a.result <;> simp [Ending.error?, Except.isOk, Except.toBool]

end Attempt

section Runs

variable {workers : Nat} {cancellation : Cancellation} {attempts : List (Attempt (Except ε α))}

/-- A batch of attempts that was not interrupted holds the results of all of them. -/
theorem runAttempts_batch
    (hnone : (runAttempts workers cancellation attempts).batch.interrupted = none) :
    (runAttempts workers cancellation attempts).batch =
      Batch.inTurn (attempts.map Attempt.task) := by
  have hresult : ∀ task ∈ attempts.map Attempt.task, task.ending.IsResult := by
    intro task htask
    obtain ⟨a, _, rfl⟩ := List.mem_map.1 htask
    exact a.task_isResult
  obtain ⟨report, hreturned, hbatch⟩ :=
    (Job.ofAttempts workers attempts).exists_execute hresult cancellation
  have heq : (runAttempts workers cancellation attempts).batch = report.batch := by
    unfold runAttempts
    rw [hreturned]
  rw [heq] at hnone ⊢
  exact hbatch hnone

theorem runAttempts_outputs
    (hnone : (runAttempts workers cancellation attempts).batch.interrupted = none) :
    (runAttempts workers cancellation attempts).batch.outputs =
      attempts.map (·.result.toOption) := by
  rw [runAttempts_batch hnone, Batch.inTurn_outputs, List.map_map]
  exact List.map_congr_left fun a _ => a.task_value?

/-- Unless all attempts of such a batch failed, it keeps a value. -/
theorem runAttempts_kept_ne_nil
    (hnone : (runAttempts workers cancellation attempts).batch.interrupted = none)
    (hfailed : (runAttempts workers cancellation attempts).batch.failedCount ≠
      (runAttempts workers cancellation attempts).batch.size) :
    (runAttempts workers cancellation attempts).batch.kept ≠ [] := by
  intro hkept
  have hvalue : ∀ a ∈ attempts, a.result.toOption = none := by
    rw [Batch.kept, runAttempts_outputs hnone] at hkept
    simpa [List.filterMap_eq_nil_iff] using hkept
  have herror : ∀ a ∈ attempts, a.task.ending.error?.isSome := by
    intro a ha
    have hnot : ¬ a.result.isOk := by
      have := hvalue a ha
      cases hresult : a.result with
      | ok value => simp [hresult, Except.toOption] at this
      | error e => simp [Except.isOk, Except.toBool]
    rw [← Attempt.task_error?_eq_none] at hnot
    exact Option.isSome_iff_ne_none.2 hnot
  apply hfailed
  rw [runAttempts_batch hnone, Batch.failedCount, Batch.size, Batch.inTurn_errors,
    Batch.inTurn_outputs, List.length_map]
  calc
    ((attempts.map Attempt.task).map (·.ending.error?)).countP Option.isSome =
        ((attempts.map Attempt.task).map (·.ending.error?)).length := by
      rw [List.countP_eq_length]
      simpa using herror
    _ = (attempts.map Attempt.task).length := List.length_map _

end Runs

namespace Batch

variable {b : Batch ε α} {what : String}

/-- An update keeps its data exactly when its batch was not interrupted and not all of it failed. -/
theorem keepsData_classify :
    (Outcome.ofResult (b.classify what)).keepsData ↔
      b.interrupted = none ∧ ¬ (0 < b.size ∧ b.failedCount = b.size) := by
  unfold classify
  cases b.interrupted with
  | some cause => simp [Outcome.ofResult, FetchError.isPartial, Outcome.keepsData]
  | none =>
    dsimp only
    split
    · rename_i hall
      simp [Outcome.ofResult, FetchError.isPartial, Outcome.keepsData, hall]
    · rename_i hall
      split <;> simp [Outcome.ofResult, FetchError.isPartial, Outcome.keepsData, hall]

/-- Only a batch with failures gives a notice, and only if it was not interrupted. -/
theorem notice?_classify (h : b.interrupted = none → b.failedCount = 0) :
    (Outcome.ofResult (b.classify what)).notice? = none := by
  unfold classify
  cases hinterrupted : b.interrupted with
  | some cause => simp [Outcome.ofResult, FetchError.isPartial, Outcome.notice?]
  | none =>
    dsimp only
    split
    · simp [Outcome.ofResult, FetchError.isPartial, Outcome.notice?]
    · simp [h hinterrupted, Outcome.ofResult, Outcome.notice?]

end Batch

end DashboardRefresh
