import DashboardRefresh.Proofs.Pool.Progress

/-!
# Jobs that are not cancelled

A job whose tasks all end with a value or an error gives the batch of running the tasks one after
the other, for every number of workers and all durations. Its tasks are started in order, each once.
The job of no input and the job of a single one do without the pool, and give what the pool would
give.
-/

namespace DashboardRefresh

variable {ι κ ε α : Type}

namespace Pool

variable {tasks : List (Task ε α)} {workers : Nat} {cancelAt : Option Nat}

namespace State

theorem stopped_of_step {s t : State ε α} (hstep : s.step tasks none = some t) :
    t.stopped = s.stopped := by
  cases move_of_step hstep with
  | take => simp
  | finish => simp
  | dispatch => rfl
  | cancel hc => simp at hc

theorem Ends.stopped_eq {s u : State ε α} {starts : List Nat}
    (hends : Ends tasks none s starts u) : u.stopped = s.stopped := by
  induction hends with
  | done => rfl
  | next hstep _ ih => exact ih.trans (stopped_of_step hstep)

/-- What a pool without crashes shows once nothing is left to hand over. -/
theorem verdict_eq {u : State ε α} (hmore : u.hasMore = false) (hdead : u.dead = []) :
    u.verdict = .returned
      ⟨{ u.batch with
          interrupted :=
            if u.stopped then some (.cancelled u.dispatched u.started.length) else none },
        u.started, u.peak, u.clock⟩ := by
  simp [verdict, hmore, hdead, firstCrash]

end State

/-- A run of the pool is a run to its end. -/
theorem execute_ends (tasks : List (Task ε α)) (workers : Nat) (cancelAt : Option Nat) :
    ∃ starts u, State.Ends tasks cancelAt (State.initial tasks.length workers) starts u ∧
      execute tasks workers cancelAt = u.verdict := by
  have hfuel : (State.initial tasks.length workers : State ε α).remaining ≤
      stepBound tasks.length := (State.remaining_initial _).le
  obtain ⟨starts, hends⟩ :=
    State.ends_run (stepBound tasks.length) State.initial_accounted hfuel
  exact ⟨starts, _, hends, rfl⟩

/-- A pool without crashes ends with the batch of the inputs it has dispatched. -/
theorem State.Accounted.batch_of_finished {u : State ε α} (h : u.Accounted tasks workers)
    (hrunning : u.running = []) (hqueued : u.queued = none) :
    u.batch = Batch.ofRecorded tasks fun i => i < u.dispatched := by
  refine h.batch_eq.trans (Batch.ofRecorded_congr _ fun i _ => ?_)
  simp [State.recorded, State.taken, hrunning, hqueued]

/-- A pool without crashes that is never cancelled starts the inputs in order and records them
all. -/
theorem execute_none (hresult : ∀ task ∈ tasks, task.ending.IsResult)
    (hworkers : tasks ≠ [] → 0 < workers) :
    ∃ u, State.Ends tasks none (State.initial tasks.length workers) (List.range tasks.length) u ∧
      u.Accounted tasks workers ∧ u.taken = tasks.length ∧
      execute tasks workers none = u.verdict ∧
      u.verdict = .returned ⟨Batch.inTurn tasks, u.started, u.peak, u.clock⟩ := by
  obtain ⟨starts, u, hends, heq⟩ := execute_ends tasks workers none
  have hu := hends.accounted State.initial_accounted
  obtain ⟨hrunning, hqueued, hmore⟩ := hu.finished hends.halted hresult hworkers
  have hstopped : u.stopped = false := hends.stopped_eq
  have hdispatched : u.dispatched = tasks.length := by
    have hle := hu.dispatched_le
    simp only [State.hasMore, hstopped, Bool.not_false, Bool.true_and, decide_eq_false_iff_not,
      hu.started_length] at hmore
    omega
  have htaken : u.taken = tasks.length := by simp [State.taken, hqueued, hdispatched]
  have hstarts : starts = List.range tasks.length := by
    rw [hends.starts_eq State.initial_accounted, htaken, List.range_eq_range']
    simp [State.taken, State.initial]
  have hbatch : u.batch = Batch.ofRecorded tasks fun _ => true := by
    rw [hu.batch_of_finished hrunning hqueued, hdispatched]
    exact Batch.ofRecorded_congr _ fun i hi => by simpa using hi
  refine ⟨u, hstarts ▸ hends, hu, htaken, heq, ?_⟩
  rw [State.verdict_eq hmore (hu.dead_eq_nil hresult), hstopped, hbatch,
    Batch.inTurn_eq]
  rfl

/-- Every task has a start once all inputs are taken. -/
theorem State.Accounted.started_all {u : State ε α} (h : u.Accounted tasks workers)
    (htaken : u.taken = tasks.length) : ∀ start ∈ u.started, start.isSome := by
  intro start hstart
  obtain ⟨i, hi, rfl⟩ := List.getElem_of_mem hstart
  have hlt : i < u.taken := by rwa [htaken, ← h.started_length]
  have hsome := (h.started_isSome i).2 hlt
  rwa [List.getElem?_eq_getElem hi] at hsome

end Pool

namespace Job

theorem workers_pos {job : Job ι ε α} (h : job.inputs ≠ []) : 0 < job.workers := by
  have hlength := List.length_pos_iff.2 h
  unfold workers
  split
  · exact lt_min (by decide) hlength
  · rename_i hrequested
    exact lt_min (Nat.pos_of_ne_zero hrequested) hlength

theorem workers_congr {job : Job ι ε α} {other : Job κ ε α}
    (hrequested : other.requested = job.requested)
    (hlength : other.inputs.length = job.inputs.length) : other.workers = job.workers := by
  unfold workers
  rw [hrequested, hlength]

/-- A single task is run in place as the pool would run it: dispatched, taken, and ended at once or
after a wait. Nothing is left to cancel once it is dispatched. -/
theorem runSingle_eq (task : Task ε α) (cancelAt : Option Nat) :
    runSingle task = Pool.execute [task] 1 cancelAt := by
  obtain ⟨duration, ending⟩ := task
  cases duration with
  | zero => cases cancelAt <;> cases ending <;> rfl
  | succ duration =>
    cases cancelAt <;> cases ending <;>
      simp [runSingle, Pool.execute, Pool.stepBound, Pool.State.run, Pool.State.initial,
        Pool.State.step, Pool.State.wait, Pool.State.hasMore, Pool.soonest, Pool.State.start,
        Pool.State.finish, Pool.State.settle, Pool.State.verdict, Pool.firstCrash,
        Option.filter_some, Batch.fill, Batch.empty]

theorem workers_singleton (input : ι) (requested : Nat) (task : ι → Task ε α) :
    workers ⟨[input], requested, task⟩ = 1 := by
  have hpos : 0 < workers ⟨[input], requested, task⟩ := workers_pos (by simp)
  have hle : workers ⟨[input], requested, task⟩ ≤ 1 := min_le_right _ _
  omega

/-- The ways around the pool give what the pool gives. -/
theorem execute_never_eq_pool (job : Job ι ε α) :
    job.execute .never = Pool.execute (job.inputs.map job.task) job.workers none := by
  obtain ⟨inputs, requested, task⟩ := job
  match inputs with
  | [] => rfl
  | [input] => exact (workers_singleton input requested task).symm ▸ runSingle_eq (task input) none
  | _ :: _ :: _ => rfl

theorem execute_atMillis_eq_pool (job : Job ι ε α) (c : Nat) :
    job.execute (.atMillis c) = Pool.execute (job.inputs.map job.task) job.workers (some c) := by
  obtain ⟨inputs, requested, task⟩ := job
  match inputs with
  | [] => rfl
  | [input] =>
    exact (workers_singleton input requested task).symm ▸ runSingle_eq (task input) (some c)
  | _ :: _ :: _ => rfl

theorem execute_never_batch (job : Job ι ε α)
    (hresult : ∀ task ∈ job.inputs.map job.task, task.ending.IsResult) :
    ∃ report, job.execute .never = .returned report ∧
      report.batch = Batch.inTurn (job.inputs.map job.task) := by
  obtain ⟨u, _, _, _, hpool, hverdict⟩ :=
    Pool.execute_none hresult fun hne => job.workers_pos (by simpa using hne)
  exact ⟨_, (execute_never_eq_pool job).trans (hpool.trans hverdict), rfl⟩

/-- A job without crashes that is never cancelled ends, has started each task once and in order, and
returns the batch of running the tasks one after the other. The number of workers and the durations
have no part in that batch, nor has the way around the pool that a short job takes. -/
theorem execute_never_eq_inTurn (job : Job ι ε α)
    (hresult : ∀ input ∈ job.inputs, (job.task input).ending.IsResult) :
    ∃ report,
      job.execute .never = .returned report ∧
      Pool.execute (job.inputs.map job.task) job.workers none = .returned report ∧
      (∃ u, Pool.State.Ends (job.inputs.map job.task) none
        (Pool.State.initial job.inputs.length job.workers) (List.range job.inputs.length) u ∧
        u.verdict = .returned report) ∧
      report.started.length = job.inputs.length ∧ (∀ start ∈ report.started, start.isSome) ∧
      report.batch.outputs.length = job.inputs.length ∧
      report.batch.errors.length = job.inputs.length ∧
      (∀ i input, job.inputs[i]? = some input →
        report.batch.Holds i (job.task input).ending) ∧
      report.batch.interrupted = none ∧
      report.batch = Batch.inTurn (job.inputs.map job.task) ∧
      ∀ other : Job κ ε α,
        other.inputs.map (fun input => (other.task input).ending) =
          job.inputs.map (fun input => (job.task input).ending) →
        ∃ same, other.execute .never = .returned same ∧ same.batch = report.batch := by
  have htasks : ∀ task ∈ job.inputs.map job.task, task.ending.IsResult := by
    simpa using hresult
  obtain ⟨u, hends, hu, htaken, hpool, hverdict⟩ :=
    Pool.execute_none htasks fun hne => job.workers_pos (by simpa using hne)
  rw [List.length_map] at hends
  have hlength : u.started.length = job.inputs.length := by rw [hu.started_length, List.length_map]
  refine ⟨_, (execute_never_eq_pool job).trans (hpool.trans hverdict), hpool.trans hverdict,
    ⟨u, hends, hverdict⟩, hlength, hu.started_all htaken, ?_, ?_, fun i input hi => ?_,
    Batch.inTurn_interrupted, rfl, fun other hsame => ?_⟩
  · rw [Batch.inTurn_outputs, List.length_map, List.length_map]
  · rw [Batch.inTurn_errors, List.length_map, List.length_map]
  · exact Batch.inTurn_holds (by rw [List.getElem?_map, hi, Option.map_some])
  · have hendings : (other.inputs.map other.task).map (·.ending) =
        (job.inputs.map job.task).map (·.ending) := by
      simpa only [List.map_map, Function.comp_def] using hsame
    have hothers : ∀ task ∈ other.inputs.map other.task, task.ending.IsResult := by
      intro task htask
      have hmem : task.ending ∈ (job.inputs.map job.task).map (·.ending) :=
        hendings ▸ List.mem_map_of_mem htask
      obtain ⟨equal, hequal, heq⟩ := List.mem_map.1 hmem
      exact heq ▸ htasks equal hequal
    obtain ⟨same, hreturned, hbatch⟩ := other.execute_never_batch hothers
    exact ⟨same, hreturned, hbatch.trans (Batch.inTurn_congr hendings)⟩

/-- Three tasks on two workers, of which the second fails at once. -/
def countdown : Job Nat String Nat :=
  ⟨[3, 0, 2], 2, fun n => ⟨n, if n = 0 then .error "over" else .value n⟩⟩

theorem execute_never_eq_inTurn_countdown :
    (∀ input ∈ countdown.inputs, (countdown.task input).ending.IsResult) ∧
      ∃ report, countdown.execute .never = .returned report ∧
        report.batch = ⟨[some 3, none, some 2], [none, some "over", none], none⟩ := by
  have hresult : ∀ input ∈ countdown.inputs, (countdown.task input).ending.IsResult := by decide
  obtain ⟨report, hreturned, _, _, _, _, _, _, _, _, hbatch, _⟩ :=
    execute_never_eq_inTurn (κ := Nat) countdown hresult
  exact ⟨hresult, report, hreturned, hbatch⟩

end Job

end DashboardRefresh
