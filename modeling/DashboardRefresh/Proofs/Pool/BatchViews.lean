import DashboardRefresh.Proofs.Pool.Cancellation
import DashboardRefresh.Proofs.Pool.Crashes

/-!
# The views of a batch

A run that returns has recorded the results of the inputs that were dispatched, which are the first
ones, and no others. So the batch is that of a list of results, with empty slots behind them, and
every view of it can be read off this list: the filled slots, the values alone, the number of
failures and the class of the whole.
-/

namespace DashboardRefresh

variable {ι ε α : Type}

/-! ## Results -/

namespace Ending

/-- The ending of a task with a result. -/
def ofResult : Except ε α → Ending ε α
  | .ok a => .value a
  | .error e => .error e

theorem IsResult.exists_ofResult {ending : Ending ε α} (h : ending.IsResult) :
    ∃ result, ending = ofResult result := by
  cases ending with
  | value a => exact ⟨.ok a, rfl⟩
  | error e => exact ⟨.error e, rfl⟩
  | crash message => exact h.elim

end Ending

/-- Endings none of which is a crash are those with some results. -/
theorem exists_results {endings : List (Ending ε α)} (h : ∀ ending ∈ endings, ending.IsResult) :
    ∃ results : List (Except ε α), endings = results.map Ending.ofResult := by
  induction endings with
  | nil => exact ⟨[], rfl⟩
  | cons ending endings ih =>
    obtain ⟨hfirst, hrest⟩ := List.forall_mem_cons.1 h
    obtain ⟨result, rfl⟩ := hfirst.exists_ofResult
    obtain ⟨results, rfl⟩ := ih hrest
    exact ⟨result :: results, rfl⟩

/-! ## Runs that return -/

namespace Pool

variable {tasks : List (Task ε α)} {workers : Nat} {cancelAt : Option Nat}

namespace State

/-- A dispatcher that is stopped has inputs left, and it is not stopped later on. -/
theorem unfinished_of_step {s t : State ε α} (hstep : s.step tasks cancelAt = some t)
    (h : s.stopped → s.dispatched < s.started.length) :
    t.stopped → t.dispatched < t.started.length := by
  cases move_of_step hstep with
  | take => simpa using h
  | finish => simpa using h
  | dispatch _ hmore =>
    intro hstopped
    simp only [hasMore, Bool.and_eq_true, Bool.not_eq_true'] at hmore
    simp [hmore.1] at hstopped
  | cancel _ _ _ hmore =>
    intro _
    simp only [hasMore, Bool.and_eq_true, decide_eq_true_eq] at hmore
    exact hmore.2

theorem Ends.unfinished {s u : State ε α} {starts : List Nat}
    (hends : Ends tasks cancelAt s starts u) (h : s.stopped → s.dispatched < s.started.length) :
    u.stopped → u.dispatched < u.started.length := by
  induction hends with
  | done => exact h
  | next hstep _ ih => exact ih (unfinished_of_step hstep h)

/-- Only a pool that has handed over all it was to and has lost no worker returns. -/
theorem of_verdict_returned {u : State ε α} {report : Report ε α}
    (h : u.verdict = .returned report) :
    u.hasMore = false ∧ u.dead = [] ∧ report.batch = { u.batch with
      interrupted :=
        if u.stopped then some (.cancelled u.dispatched u.started.length) else none } := by
  unfold verdict at h
  split at h
  · cases h
  · rename_i hmore
    split at h
    · cases h
    · rename_i hnone
      cases h
      exact ⟨by simpa using hmore, firstCrash_eq_none.1 hnone, rfl⟩

end State

/-- A run that returns has recorded the first inputs, as many as were dispatched. Their tasks have
not crashed, and if there are more inputs it was cancelled. -/
theorem execute_returned {report : Report ε α} (hworkers : tasks ≠ [] → 0 < workers)
    (h : execute tasks workers cancelAt = .returned report) :
    ∃ k ≤ tasks.length, (∀ task ∈ tasks.take k, task.ending.IsResult) ∧
      report.batch = { Batch.ofRecorded tasks (fun i => i < k) with
        interrupted :=
          if k < tasks.length then some (.cancelled k tasks.length) else none } := by
  obtain ⟨starts, u, hends, hverdict⟩ := execute_ends tasks workers cancelAt
  have hu := hends.accounted State.initial_accounted
  have hcounted := hends.counted State.initial_accounted (State.initial_counted _)
  have hunfinished := hends.unfinished (by simp [State.initial])
  obtain ⟨hmore, hdead, hbatch⟩ := State.of_verdict_returned (hverdict.symm.trans h)
  obtain ⟨hrunning, hblocked, _⟩ :=
    State.blocked_of_step_eq_none hends.halted hu.queued_lt hu.running_input_lt
  have hqueued : u.queued = none := by
    by_contra hne
    obtain ⟨i, hi⟩ := Option.ne_none_iff_exists'.1 hne
    have hpos := hworkers (List.ne_nil_of_length_pos (Nat.zero_lt_of_lt (hu.queued_lt i hi)))
    have hall := hu.workers_eq
    rw [hblocked.resolve_left hne, hrunning, hdead] at hall
    simp only [List.length_nil] at hall
    omega
  have htaken : u.taken = u.dispatched := by simp [State.taken, hqueued]
  have hcrashes : crashesBelow tasks u.dispatched = 0 := by
    rw [← htaken, ← hcounted.dead_eq hu hends.halted, hdead, List.length_nil]
  have hstopped : u.stopped ↔ u.dispatched < tasks.length := by
    rw [hu.started_length] at hunfinished
    simp only [State.hasMore, hu.started_length, Bool.and_eq_false_iff, Bool.not_eq_false',
      decide_eq_false_iff_not] at hmore
    exact ⟨hunfinished, fun hlt => hmore.resolve_right (not_not_intro hlt)⟩
  refine ⟨u.dispatched, hu.dispatched_le, ?_, ?_⟩
  · intro task htask
    rw [Ending.isResult_iff, ← Option.not_isSome_iff_eq_none]
    exact List.countP_eq_zero.1 hcrashes task htask
  · rw [hbatch, hu.batch_of_finished hrunning hqueued, hu.started_length]
    simp only [hstopped]

end Pool

/-! ## Batches of results -/

/-- The error of a result, if it is one. -/
def failure? : Except ε α → Option ε
  | .ok _ => none
  | .error e => some e

theorem value?_ofResult (result : Except ε α) :
    (Ending.ofResult result).value? = result.toOption := by
  cases result <;> rfl

theorem error?_ofResult (result : Except ε α) :
    (Ending.ofResult result).error? = failure? result := by
  cases result <;> rfl

namespace Batch

/-- The batch of `n` inputs, of which the first were dispatched and had these results. -/
def ofResults (results : List (Except ε α)) (n : Nat) : Batch ε α where
  outputs := results.map (·.toOption) ++ List.replicate (n - results.length) none
  errors := results.map failure? ++ List.replicate (n - results.length) none
  interrupted := if results.length < n then some (.cancelled results.length n) else none

section OfResults

variable {results : List (Except ε α)} {n : Nat}

/-- The tasks that had these results are among the tasks. -/
theorem length_le_of_take {endings : List (Ending ε α)}
    (h : endings.take results.length = results.map Ending.ofResult) :
    results.length ≤ endings.length := by
  have hlength := congrArg List.length h
  rw [List.length_take, List.length_map] at hlength
  omega

theorem ofRecorded_eq_ofResults {tasks : List (Task ε α)} (hle : results.length ≤ tasks.length)
    (hresults : (tasks.take results.length).map (·.ending) = results.map Ending.ofResult) :
    { ofRecorded tasks (fun i => i < results.length) with
      interrupted :=
        if results.length < tasks.length then some (.cancelled results.length tasks.length)
        else none } = ofResults results tasks.length := by
  have hparts {β : Type} (part : Ending ε α → Option β) :
      slotsOf part tasks (fun i => i < results.length) =
        results.map (fun r => part (.ofResult r)) ++
          List.replicate (tasks.length - results.length) none := by
    have hmap := congrArg (List.map part) hresults
    rw [List.map_map, List.map_map] at hmap
    rw [slotsOf_lt hle]
    exact congrArg (· ++ _) hmap
  unfold ofRecorded ofResults
  rw [hparts, hparts]
  simp only [value?_ofResult, error?_ofResult]

theorem size_ofResults (h : results.length ≤ n) : (ofResults results n).size = n := by
  simp only [size, ofResults, List.length_append, List.length_map, List.length_replicate]
  omega

theorem slot_of_result (result : Except ε α) :
    slot result.toOption (failure? result) = some result := by
  cases result <;> rfl

/-- The filled slots are the results, each with its position. -/
theorem results_ofResults :
    (ofResults results n).results = results.zipIdx.map fun p => (p.2, p.1) := by
  have hslots : List.zipWith slot (ofResults results n).outputs (ofResults results n).errors =
      results.map some ++ List.replicate (n - results.length) none := by
    unfold ofResults
    rw [List.zipWith_append (by rw [List.length_map, List.length_map]), List.zipWith_map,
      List.zipWith_self, List.zipWith_replicate']
    simp only [slot_of_result]
    rfl
  have hempty (m k : Nat) : ((List.replicate m (none : Option (Except ε α))).zipIdx k).filterMap
      (fun s => s.1.map (s.2, ·)) = [] := by
    apply List.filterMap_eq_nil_iff.2
    intro s hs
    rw [List.eq_of_mem_replicate (List.fst_mem_of_mem_zipIdx hs)]
    rfl
  unfold Batch.results
  rw [hslots, List.zipIdx_append, List.filterMap_append, hempty, List.append_nil,
    List.zipIdx_map, List.filterMap_map, ← List.filterMap_eq_map]
  rfl

theorem mem_results_ofResults {i : Nat} {result : Except ε α} :
    (i, result) ∈ (ofResults results n).results ↔ results[i]? = some result := by
  rw [results_ofResults, List.mem_map]
  constructor
  · rintro ⟨⟨r, j⟩, hmem, heq⟩
    obtain ⟨rfl, rfl⟩ := Prod.mk.inj heq
    exact List.mem_zipIdx_iff_getElem?.1 hmem
  · intro h
    exact ⟨(result, i), List.mem_zipIdx_iff_getElem?.2 h, rfl⟩

/-- The slots of an input hold a result exactly if it had that result. -/
theorem holds_ofResults_iff {i : Nat} {result : Except ε α} :
    (ofResults results n).Holds i (.ofResult result) ↔ results[i]? = some result := by
  unfold Holds ofResults
  rw [value?_ofResult, error?_ofResult, List.getElem?_append, List.getElem?_append,
    List.length_map, List.length_map]
  by_cases hi : i < results.length
  · rw [if_pos hi, if_pos hi, List.getElem?_map, List.getElem?_map, List.getElem?_eq_getElem hi]
    cases results[i] <;> cases result <;> simp [Except.toOption, failure?]
  · -- Beyond the results the slots are empty on both sides, or there are none.
    rw [if_neg hi, if_neg hi, List.getElem?_eq_none (Nat.le_of_not_lt hi),
      List.getElem?_replicate, List.getElem?_replicate]
    split <;> cases result <;> simp [Except.toOption, failure?]

theorem kept_ofResults : (ofResults results n).kept = results.filterMap (·.toOption) := by
  have hempty (m : Nat) : (List.replicate m (none : Option α)).filterMap id = [] := by
    simp
  unfold kept ofResults
  rw [List.filterMap_append, hempty, List.append_nil, List.filterMap_map]
  rfl

theorem failedCount_ofResults :
    (ofResults results n).failedCount = results.countP (failure? · |>.isSome) := by
  unfold failedCount ofResults
  rw [List.countP_append, List.countP_map, List.countP_replicate]
  rfl

/-- Every result is kept or counted as a failure. -/
theorem length_kept_add_failedCount :
    (ofResults results n).kept.length + (ofResults results n).failedCount = results.length := by
  rw [kept_ofResults, failedCount_ofResults]
  induction results with
  | nil => rfl
  | cons result results ih =>
    rw [List.countP_cons, List.length_cons, ← ih]
    cases result <;> simp [Except.toOption, failure?] <;> omega

/-- The filled slots are listed in order, each once. -/
theorem positions_ofResults :
    (ofResults results n).results.map Prod.fst = List.range results.length := by
  rw [results_ofResults, List.map_map, List.range_eq_range']
  exact List.zipIdx_map_snd 0 results

/-- What is kept are the values among the filled slots. -/
theorem kept_eq_filterMap_results : (ofResults results n).kept =
    (ofResults results n).results.filterMap (·.2.toOption) := by
  rw [kept_ofResults, results_ofResults, List.filterMap_map]
  nth_rewrite 1 [← List.zipIdx_map_fst 0 results]
  rw [List.filterMap_map]
  rfl

theorem interrupted_ofResults_eq_none_iff (hle : results.length ≤ n) :
    (ofResults results n).interrupted = none ↔ results.length = n := by
  unfold ofResults
  dsimp only
  split <;> simp <;> omega

variable {endings : List (Ending ε α)}

theorem failedCount_eq_countP (h : endings.take results.length = results.map Ending.ofResult) :
    (ofResults results n).failedCount =
      (endings.take results.length).countP (·.error?.isSome) := by
  rw [h, List.countP_map, failedCount_ofResults]
  simp only [Function.comp_def, error?_ofResult]

theorem ending_of_mem_results {i : Nat} {result : Except ε α}
    (h : endings.take results.length = results.map Ending.ofResult)
    (hmem : (i, result) ∈ (ofResults results n).results) :
    endings[i]? = some (.ofResult result) := by
  have hresult := mem_results_ofResults.1 hmem
  have hi : i < results.length := (List.getElem?_eq_some_iff.1 hresult).1
  calc
    endings[i]? = (endings.take results.length)[i]? := (List.getElem?_take_of_lt hi).symm
    _ = some (.ofResult result) := by rw [h, List.getElem?_map, hresult, Option.map_some]

end OfResults

/-! ## Classes -/

section Classes

variable {b : Batch ε α} {what : String}

theorem classify_eq_noContent_iff : (∃ text, b.classify what = .error (.noContent text)) ↔
    b.interrupted ≠ none ∨ 0 < b.size ∧ b.failedCount = b.size := by
  unfold classify
  cases b.interrupted with
  | some cause => simp
  | none =>
    dsimp only
    split
    · simp [*]
    · split <;> simp [*]

theorem classify_eq_partialContent_iff {failed total : Nat} {named : String} :
    b.classify what = .error (.partialContent failed total named) ↔
      b.interrupted = none ∧ 0 < b.failedCount ∧ ¬ (0 < b.size ∧ b.failedCount = b.size) ∧
        failed = b.failedCount ∧ total = b.size ∧ named = what := by
  unfold classify
  cases b.interrupted with
  | some cause => simp
  | none =>
    dsimp only
    split
    · simp [*]
    · split <;> simp [*, eq_comm]

theorem classify_eq_ok_iff :
    b.classify what = .ok () ↔ b.interrupted = none ∧ b.failedCount = 0 := by
  unfold classify
  cases b.interrupted with
  | some cause => simp
  | none =>
    dsimp only
    split
    · simp; omega
    · split <;> simp <;> omega

end Classes

/-! ## The views together -/

/-- The views of a batch of tasks with these endings, of which the first `k` were dispatched. -/
structure ViewsAgree (b : Batch ε α) (endings : List (Ending ε α)) (k : Nat) (what : String) :
    Prop where
  /-- The filled slots are listed in order, each once. -/
  positions : b.results.map Prod.fst = List.range k
  /-- What is listed is what the slots hold, on one side and not on the other. -/
  mem_results : ∀ i result, (i, result) ∈ b.results ↔ b.Holds i (.ofResult result)
  /-- It is how the task of the input ended. -/
  endings_eq : ∀ i result, (i, result) ∈ b.results → endings[i]? = some (.ofResult result)
  kept_eq : b.kept = b.results.filterMap (·.2.toOption)
  failedCount_eq : b.failedCount = (endings.take k).countP (·.error?.isSome)
  count : b.kept.length + b.failedCount = k
  noContent : (∃ text, b.classify what = .error (.noContent text)) ↔
    b.interrupted ≠ none ∨ 0 < endings.length ∧ ∀ ending ∈ endings, ending.error?.isSome
  partialContent : ∀ failed total named,
    b.classify what = .error (.partialContent failed total named) ↔
      b.interrupted = none ∧ 0 < b.failedCount ∧ b.failedCount < endings.length ∧
        failed = b.failedCount ∧ total = endings.length ∧ named = what
  partialContent_kept : ∀ failed total named,
    b.classify what = .error (.partialContent failed total named) →
      b.kept.length = total - failed ∧ 1 ≤ b.kept.length
  success : b.classify what = .ok () ↔
    b.interrupted = none ∧ ∀ ending ∈ endings, ending.error? = none
  success_kept : b.classify what = .ok () → b.kept.length = endings.length

theorem viewsAgree_ofResults {results : List (Except ε α)} {endings : List (Ending ε α)}
    (h : endings.take results.length = results.map Ending.ofResult) (what : String) :
    (ofResults results endings.length).ViewsAgree endings results.length what := by
  have hle := length_le_of_take h
  have hsize := size_ofResults hle
  have hcount : (ofResults results endings.length).kept.length +
      (ofResults results endings.length).failedCount = results.length :=
    length_kept_add_failedCount
  have hfailed : (ofResults results endings.length).failedCount =
      (endings.take results.length).countP (·.error?.isSome) := failedCount_eq_countP h
  have hinterrupted := interrupted_ofResults_eq_none_iff hle
  have hall (hnone : (ofResults results endings.length).interrupted = none) :
      endings.take results.length = endings := by
    rw [hinterrupted.1 hnone, List.take_length]
  refine
    { positions := positions_ofResults
      mem_results := fun i result => mem_results_ofResults.trans holds_ofResults_iff.symm
      endings_eq := fun i result hmem => ending_of_mem_results h hmem
      kept_eq := kept_eq_filterMap_results
      failedCount_eq := hfailed
      count := hcount
      noContent := ?_
      partialContent := fun failed total named => ?_
      partialContent_kept := fun failed total named hclass => ?_
      success := ?_
      success_kept := fun hclass => ?_ }
  · rw [classify_eq_noContent_iff, hsize]
    by_cases hnone : (ofResults results endings.length).interrupted = none
    · rw [hfailed, hall hnone, List.countP_eq_length]
    · simp [hnone]
  · rw [classify_eq_partialContent_iff, hsize]
    constructor
    · rintro ⟨hnone, hpos, hsome, hrest⟩
      exact ⟨hnone, hpos, by omega, hrest⟩
    · rintro ⟨hnone, hpos, hlt, hrest⟩
      exact ⟨hnone, hpos, by omega, hrest⟩
  · obtain ⟨hnone, hpos, hsome, rfl, rfl, _⟩ := classify_eq_partialContent_iff.1 hclass
    have hdispatched := hinterrupted.1 hnone
    rw [hsize] at hsome ⊢
    omega
  · rw [classify_eq_ok_iff, and_congr_right_iff]
    intro hnone
    rw [hfailed, hall hnone, List.countP_eq_zero]
    simp
  · obtain ⟨hnone, hzero⟩ := classify_eq_ok_iff.1 hclass
    have hdispatched := hinterrupted.1 hnone
    omega

end Batch

namespace Job

/-- A job of which nothing is run has no results. -/
theorem exists_ofResults_of_notRun {n : Nat} {report : Pool.Report ε α}
    (h : notRun n (if 0 < n then some (.cancelled 0 n) else none) = .returned report) :
    report.batch = Batch.ofResults [] n := by
  cases h
  rfl

variable {job : Job ι ε α} {report : Pool.Report ε α}

/-- The pool records the first inputs, however it is stopped. -/
theorem exists_ofResults_of_pool {cancelAt : Option Nat} (hnil : job.inputs ≠ [])
    (h : Pool.execute (job.inputs.map job.task) job.workers cancelAt = .returned report) :
    ∃ results : List (Except ε α),
      (job.inputs.map fun input => (job.task input).ending).take results.length =
        results.map Ending.ofResult ∧
      report.batch = Batch.ofResults results job.inputs.length := by
  obtain ⟨k, hk, hresult, hbatch⟩ := Pool.execute_returned (fun _ => workers_pos hnil) h
  obtain ⟨results, hresults⟩ : ∃ results : List (Except ε α),
      ((job.inputs.map job.task).take k).map (·.ending) = results.map Ending.ofResult :=
    exists_results (List.forall_mem_map.2 hresult)
  obtain rfl : results.length = k := by
    have hsame := congrArg List.length hresults
    rw [List.length_map, List.length_take, Nat.min_eq_left hk, List.length_map] at hsame
    exact hsame.symm
  refine ⟨results, ?_, ?_⟩
  · rw [← hresults, List.map_take, List.map_map]
    rfl
  · rw [hbatch, Batch.ofRecorded_eq_ofResults hk hresults, List.length_map]

/-- The batch of a job that returns holds the results of the inputs that were dispatched, which are
the first ones, and nothing else. -/
theorem exists_ofResults {cancellation : Cancellation}
    (h : job.execute cancellation = .returned report) :
    ∃ results : List (Except ε α),
      (job.inputs.map fun input => (job.task input).ending).take results.length =
        results.map Ending.ofResult ∧
      report.batch = Batch.ofResults results job.inputs.length := by
  by_cases hnil : job.inputs = []
  · rw [execute_nil hnil] at h
    refine ⟨[], rfl, ?_⟩
    rw [hnil]
    exact exists_ofResults_of_notRun h
  · cases cancellation with
    | never => exact exists_ofResults_of_pool hnil ((execute_never_eq_pool job).symm.trans h)
    | before =>
      rw [execute_before hnil] at h
      refine ⟨[], rfl, exists_ofResults_of_notRun ?_⟩
      rw [if_pos (List.length_pos_iff.2 hnil)]
      exact h
    | atMillis c =>
      exact exists_ofResults_of_pool hnil ((execute_atMillis_eq_pool job c).symm.trans h)

/-- Whatever batch a job returns, its views agree. The filled slots are those of the inputs that
were dispatched, listed in order with the results of their tasks; the values alone are the values
among these; and each dispatched input is kept as a value or counted as a failure. The class of the
batch is that nothing is there exactly if it was interrupted or there are inputs and all failed,
that something is missing exactly if it was not interrupted and some but not all failed, and that
all is there exactly if it was not interrupted and none failed. -/
theorem execute_views (job : Job ι ε α) {cancellation : Cancellation} {report : Pool.Report ε α}
    (h : job.execute cancellation = .returned report) (what : String) :
    ∃ k ≤ job.inputs.length,
      report.batch.interrupted =
        (if k < job.inputs.length then some (.cancelled k job.inputs.length) else none) ∧
      report.batch.ViewsAgree (job.inputs.map fun input => (job.task input).ending) k what := by
  obtain ⟨results, hresults, hbatch⟩ := exists_ofResults h
  have hviews := Batch.viewsAgree_ofResults hresults what
  have hle := Batch.length_le_of_take hresults
  rw [List.length_map] at hviews hle
  rw [hbatch]
  exact ⟨results.length, hle, rfl, hviews⟩

/-- Four tasks on one worker, of which the third would crash and the second fails. -/
def obstacles : Job Nat String Nat :=
  ⟨[5, 0, 9, 7], 1, fun n =>
    ⟨5, if n = 0 then .error "zero" else if n = 9 then .crash "nine" else .value n⟩⟩

/-- A cancellation can come in time to keep a crash from happening. -/
theorem execute_views_obstacles :
    ∃ report, obstacles.execute (.atMillis 3) = .returned report ∧
      report.batch.results = [(0, .ok 5), (1, .error "zero")] ∧ report.batch.kept = [5] ∧
      report.batch.failedCount = 1 ∧
      ∃ text, report.batch.classify "numbers" = .error (.noContent text) := by
  have hreturned : obstacles.execute (.atMillis 3) = .returned
      ⟨⟨[some 5, none, none, none], [none, some "zero", none, none], some (.cancelled 2 4)⟩,
        [some 0, some 5, none, none], 1, 10⟩ := by rfl
  obtain ⟨k, _, _, hviews⟩ := execute_views obstacles hreturned "numbers"
  refine ⟨_, hreturned, rfl, rfl, rfl, hviews.noContent.2 (.inl ?_)⟩
  exact Option.some_ne_none _

end Job

end DashboardRefresh
