import DashboardRefresh.Proofs.Pool.Completion

/-!
# Jobs with tasks that crash

A task that crashes takes its worker with it. While fewer tasks crash than there are workers, all
inputs are still taken, and the job passes on one of the crashes after the last task is over.
Otherwise the pool comes to a halt with the crash that takes the last worker: the input after it may
still be put into the queue, and if there are inputs after that one the dispatcher waits for ever.
`State.Counted` is what makes this independent of the durations: each crashing task that was taken
is either under way or has cost a worker, so that the crashes among the inputs that were taken,
without the last of these, are always fewer than the workers.
-/

namespace DashboardRefresh

variable {ι κ ε α : Type}

/-- The message that a task crashes with, if it does. -/
def Ending.crash? : Ending ε α → Option String
  | .crash message => some message
  | _ => none

theorem Ending.isResult_iff {ending : Ending ε α} : ending.IsResult ↔ ending.crash? = none := by
  cases ending <;> simp [crash?, IsResult]

/-- Whether a task crashes. -/
def Task.crashes (task : Task ε α) : Bool := task.ending.crash?.isSome

namespace Pool

/-- How many of the first `k` tasks crash. -/
def crashesBelow (tasks : List (Task ε α)) (k : Nat) : Nat := (tasks.take k).countP Task.crashes

/-- The task of input `p` is the `n`-th one that crashes: it does, and `n - 1` of those before it
do. -/
def IsNthCrash (tasks : List (Task ε α)) (n p : Nat) : Prop :=
  tasks[p]?.any Task.crashes ∧ crashesBelow tasks p + 1 = n

variable {tasks : List (Task ε α)} {workers : Nat} {cancelAt : Option Nat}

/-! ## Counting crashes -/

theorem crashesBelow_zero : crashesBelow tasks 0 = 0 := by simp [crashesBelow]

theorem crashesBelow_length : crashesBelow tasks tasks.length = tasks.countP Task.crashes := by
  rw [crashesBelow, List.take_length]

theorem crashesBelow_succ {i : Nat} {task : Task ε α} (h : tasks[i]? = some task) :
    crashesBelow tasks (i + 1) = crashesBelow tasks i + if task.crashes then 1 else 0 := by
  rw [crashesBelow, List.take_add_one, h, List.countP_append, Option.toList_some,
    List.countP_singleton]
  rfl

theorem crashesBelow_mono {j k : Nat} (h : j ≤ k) : crashesBelow tasks j ≤ crashesBelow tasks k :=
  (List.take_sublist_take_left h).countP_le

/-- How long the tasks take has no part in the count. -/
theorem crashesBelow_congr {others : List (Task ε α)}
    (h : others.map (·.ending) = tasks.map (·.ending)) (k : Nat) :
    crashesBelow others k = crashesBelow tasks k := by
  have hcount (tasks : List (Task ε α)) : crashesBelow tasks k =
      ((tasks.map (·.ending)).take k).countP (·.crash?.isSome) := by
    rw [← List.map_take, List.countP_map]
    rfl
  rw [hcount, hcount, h]

/-- The crash that makes `n` is the last one that is needed for `n` crashes. -/
theorem IsNthCrash.le_crashesBelow_iff {n p : Nat} (h : IsNthCrash tasks n p) (k : Nat) :
    n ≤ crashesBelow tasks k ↔ p < k := by
  obtain ⟨hcrash, hcount⟩ := h
  obtain ⟨task, htask, hcrashes⟩ := Option.any_eq_true _ _ |>.1 hcrash
  have hnext : crashesBelow tasks (p + 1) = n := by
    rw [crashesBelow_succ htask, if_pos hcrashes, hcount]
  constructor
  · intro hle
    by_contra hnot
    have hmono : crashesBelow tasks k ≤ crashesBelow tasks p :=
      crashesBelow_mono (Nat.le_of_not_lt hnot)
    omega
  · intro hlt
    exact hnext ▸ crashesBelow_mono hlt

/-! ## Workers and crashes -/

namespace State

/-- Each crashing task that was taken is under way or has cost a worker. The last input that was
taken found a worker, so that the crashes before it were fewer than the workers. -/
structure Counted (tasks : List (Task ε α)) (workers : Nat) (s : State ε α) : Prop where
  dead_add : s.dead.length + s.running.countP (tasks[·.input]?.any Task.crashes) =
    crashesBelow tasks s.taken
  crashes_lt : ∀ i < s.taken, crashesBelow tasks i < workers
  dead_crashed : ∀ d ∈ s.dead, ∃ i < s.taken, ∃ task, tasks[i]? = some task ∧
    task.ending = .crash d.2

theorem initial_counted (n : Nat) : (initial n workers : State ε α).Counted tasks workers where
  dead_add := by simp [initial, taken, crashesBelow_zero]
  crashes_lt := by simp [initial, taken]
  dead_crashed := by simp [initial]

theorem settle_dead_length (s : State ε α) (worker input : Nat) (task : Task ε α) :
    (s.settle worker input task.ending).dead.length =
      s.dead.length + if task.crashes then 1 else 0 := by
  unfold Task.crashes
  cases task.ending <;> simp [settle, Ending.crash?]

theorem Counted.finish {s : State ε α} {r : Running} {task : Task ε α}
    (h : s.Accounted tasks workers) (hc : s.Counted tasks workers) (hr : r ∈ s.running)
    (htask : tasks[r.input]? = some task) : (s.finish r task).Counted tasks workers where
  dead_add := by
    have hdead := settle_dead_length
      { s with clock := max s.clock r.ends, running := s.running.erase r } r.worker r.input task
    have hcount := hc.dead_add
    rw [(List.perm_cons_erase hr).countP_eq, List.countP_cons, htask, Option.any_some] at hcount
    have htaken : (s.finish r task).taken = s.taken := by simp [taken]
    rw [htaken, finish_running, ← hcount]
    unfold State.finish
    rw [hdead]
    dsimp only
    omega
  crashes_lt := by simpa [taken] using hc.crashes_lt
  dead_crashed d hd := by
    have htaken : (s.finish r task).taken = s.taken := by simp [taken]
    rw [htaken]
    rcases mem_settle_dead _ _ _ _ hd with hd | hcrash
    · exact hc.dead_crashed d hd
    · exact ⟨r.input, h.running_lt r hr, task, htask, hcrash⟩

/-- The worker that takes an input is one of those that no crash has cost yet. -/
theorem Counted.lt_of_idle {s : State ε α} {w : Nat} {ws : List Nat}
    (h : s.Accounted tasks workers) (hc : s.Counted tasks workers) (hidle : s.idle = w :: ws) :
    crashesBelow tasks s.taken < workers := by
  have hworkers := h.workers_eq
  have hrunning : s.running.countP (tasks[·.input]?.any Task.crashes) ≤ s.running.length :=
    List.countP_le_length
  rw [hidle, List.length_cons] at hworkers
  rw [← hc.dead_add]
  omega

theorem Counted.begin {s : State ε α} {i w : Nat} {ws : List Nat} {task : Task ε α}
    (h : s.Accounted tasks workers) (hc : s.Counted tasks workers) (hqueued : s.queued = some i)
    (hidle : s.idle = w :: ws) (htask : tasks[i]? = some task) :
    ({ s with queued := none, idle := ws }.begin w i task).Counted tasks workers := by
  have hsucc := h.queued_succ i hqueued
  have htaken : s.taken = i := by simp [taken, hqueued]
  have hnext : ({ s with queued := none, idle := ws }.begin w i task).taken = i + 1 := hsucc.symm
  refine ⟨?_, fun j hj => ?_, fun d hd => ?_⟩
  · have hcount := hc.dead_add
    rw [htaken] at hcount
    rw [hnext, crashesBelow_succ htask, ← hcount]
    simp only [State.begin, List.countP_append, List.countP_singleton, htask, Option.any_some]
    omega
  · rw [hnext] at hj
    rcases Nat.lt_succ_iff_lt_or_eq.1 hj with hj | rfl
    · exact hc.crashes_lt j (htaken ▸ hj)
    · exact htaken ▸ hc.lt_of_idle h hidle
  · obtain ⟨j, hj, hcrash⟩ := hc.dead_crashed d hd
    exact ⟨j, by omega, hcrash⟩

theorem Counted.take {s : State ε α} {i w : Nat} {ws : List Nat} {task : Task ε α}
    (h : s.Accounted tasks workers) (hc : s.Counted tasks workers) (hqueued : s.queued = some i)
    (hidle : s.idle = w :: ws) (htask : tasks[i]? = some task) :
    ({ s with queued := none, idle := ws }.start w i task).Counted tasks workers := by
  have hbegin := hc.begin h hqueued hidle htask
  rw [start_eq (s := { s with queued := none, idle := ws }) (h.queued_fresh hqueued)]
  split
  · rename_i hzero
    refine hbegin.finish (h.begin hqueued hidle task) ?_ htask
    simp [State.begin, hzero]
  · exact hbegin

theorem Counted.step {s t : State ε α} (h : s.Accounted tasks workers)
    (hc : s.Counted tasks workers) (hstep : s.step tasks cancelAt = some t) :
    t.Counted tasks workers := by
  cases move_of_step hstep with
  | take hqueued hidle htask => exact hc.take h hqueued hidle htask
  | finish hfirst htask => exact hc.finish h (mem_of_soonest hfirst) htask
  | dispatch hqueued =>
    have htaken : s.taken = s.dispatched := by simp [taken, hqueued]
    exact
      { dead_add := htaken ▸ hc.dead_add
        crashes_lt := htaken ▸ hc.crashes_lt
        dead_crashed := htaken ▸ hc.dead_crashed }
  | cancel => exact { hc with }

theorem Ends.counted {s u : State ε α} {starts : List Nat}
    (hends : Ends tasks cancelAt s starts u) (h : s.Accounted tasks workers)
    (hc : s.Counted tasks workers) : u.Counted tasks workers := by
  induction hends with
  | done => exact hc
  | next hstep _ ih => exact ih (h.step hstep) (hc.step h hstep)

/-! ## The end of the pool -/

theorem firstCrash_eq_none {ds : List (Nat × String)} : firstCrash ds = none ↔ ds = [] := by
  cases ds with
  | nil => simp [firstCrash]
  | cons d ds => cases h : firstCrash ds <;> simp [firstCrash, h]

theorem mem_of_firstCrash {ds : List (Nat × String)} {d : Nat × String}
    (h : firstCrash ds = some d) : d ∈ ds := by
  induction ds generalizing d with
  | nil => cases h
  | cons e ds ih =>
    cases hrest : firstCrash ds with
    | none =>
      simp only [firstCrash, hrest, Option.some.injEq] at h
      simp [h]
    | some f =>
      have hmem := ih hrest
      simp only [firstCrash, hrest, Option.some.injEq] at h
      split at h
      · simp [← h]
      · simp [← h, hmem]

section End

variable {u : State ε α} (h : u.Accounted tasks workers) (hc : u.Counted tasks workers)
  (hhalted : u.step tasks cancelAt = none)
include h hhalted

/-- A worker that is left has seen to it that all inputs were taken. -/
theorem Accounted.all_taken (hstopped : u.stopped = false) (hlt : u.dead.length < workers) :
    u.taken = tasks.length ∧ u.hasMore = false := by
  obtain ⟨hrunning, hblocked, hfull⟩ :=
    blocked_of_step_eq_none hhalted h.queued_lt h.running_input_lt
  have hworkers := h.workers_eq
  have hidle : u.idle ≠ [] := by
    intro hidle
    rw [hidle, hrunning, List.length_nil, List.length_nil] at hworkers
    omega
  have hqueued : u.queued = none := hblocked.resolve_right hidle
  have hmore : u.hasMore = false := by simpa using hfull hqueued
  have hle := h.dispatched_le
  refine ⟨?_, hmore⟩
  simp only [hasMore, hstopped, Bool.not_false, Bool.true_and, decide_eq_false_iff_not,
    h.started_length] at hmore
  simp only [taken, hqueued, Option.getD_none]
  omega

include hc

/-- At the end every crash among the inputs that were taken has cost a worker. -/
theorem Counted.dead_eq : u.dead.length = crashesBelow tasks u.taken := by
  obtain ⟨hrunning, _, _⟩ := blocked_of_step_eq_none hhalted h.queued_lt h.running_input_lt
  rw [← hc.dead_add, hrunning, List.countP_nil, Nat.add_zero]

/-- Without a worker that is left, the input that was taken last is the one whose crash took the
last worker. The input after it is in the queue, and those after that are left. -/
theorem Counted.all_dead (hstopped : u.stopped = false) (hworkers : 0 < workers)
    (heq : u.dead.length = workers) :
    ∃ p, u.taken = p + 1 ∧ IsNthCrash tasks workers p ∧ (u.hasMore ↔ p + 2 < tasks.length) := by
  obtain ⟨_, _, hfull⟩ := blocked_of_step_eq_none hhalted h.queued_lt h.running_input_lt
  have hcount := hc.dead_eq h hhalted
  obtain ⟨p, hp⟩ : ∃ p, u.taken = p + 1 := by
    apply Nat.exists_eq_add_one_of_ne_zero
    intro hzero
    rw [hzero, crashesBelow_zero] at hcount
    omega
  have hle := h.taken_le
  have hdispatched := h.dispatched_le
  have htask := List.getElem?_eq_getElem (l := tasks) (i := p) (by omega)
  have hbefore := hc.crashes_lt p (by omega)
  rw [hp, crashesBelow_succ htask] at hcount
  have hcrash : tasks[p].crashes := by
    by_contra hnot
    rw [if_neg hnot] at hcount
    omega
  rw [if_pos hcrash] at hcount
  refine ⟨p, hp, ⟨by rw [htask]; exact hcrash, by omega⟩, ?_⟩
  have hmore : u.hasMore ↔ u.dispatched < tasks.length := by
    simp [hasMore, hstopped, h.started_length]
  rw [hmore]
  cases hqueued : u.queued with
  | none =>
    have hnone : ¬ u.dispatched < tasks.length := fun hlt => hfull hqueued (hmore.2 hlt)
    simp only [taken, hqueued, Option.getD_none] at hp
    omega
  | some i =>
    have hsucc := h.queued_succ i hqueued
    simp only [taken, hqueued, Option.getD_some] at hp
    omega

end End

end State

/-! ## Verdicts -/

/-- The verdict passes on the crash of one of the first `k` tasks. -/
def Verdict.IsCrashOf (tasks : List (Task ε α)) (k : Nat) (verdict : Verdict ε α) : Prop :=
  ∃ i < k, ∃ task message, tasks[i]? = some task ∧ task.ending = .crash message ∧
    verdict = .crashed message

/-- How tasks turn out, apart from the times and from which of several crashes is passed on. -/
inductive Fate (ε α : Type) where
  | returned (batch : Batch ε α)
  | crashed
  | waitsForEver
  deriving DecidableEq

def Verdict.fate : Verdict ε α → Fate ε α
  | returned report => .returned report.batch
  | crashed _ => .crashed
  | waitsForEver => .waitsForEver

/-- The fate of some tasks by their endings alone: what crashes among all but the last two of them
decides whether an input is left behind for ever. -/
def fateOf (tasks : List (Task ε α)) (workers : Nat) : Fate ε α :=
  if tasks.countP Task.crashes = 0 then .returned (Batch.inTurn tasks)
  else if workers ≤ crashesBelow tasks (tasks.length - 2) then .waitsForEver
  else .crashed

theorem fateOf_congr {others : List (Task ε α)} (h : others.map (·.ending) = tasks.map (·.ending)) :
    fateOf others workers = fateOf tasks workers := by
  have hlength : others.length = tasks.length := by
    simpa only [List.length_map] using congrArg List.length h
  unfold fateOf
  rw [← crashesBelow_length, ← crashesBelow_length, hlength, crashesBelow_congr h,
    crashesBelow_congr h, Batch.inTurn_congr h]

theorem fateOf_ne_returned (h : 0 < tasks.countP Task.crashes) (batch : Batch ε α) :
    fateOf tasks workers ≠ .returned batch := by
  unfold fateOf
  rw [if_neg h.ne']
  split <;> nofun

namespace State

/-- Once a worker is dead, its crash or that of another one is passed on, unless inputs are left. -/
theorem Counted.verdict_eq {u : State ε α} (hc : u.Counted tasks workers) (hdead : u.dead ≠ []) :
    if u.hasMore then u.verdict = .waitsForEver else u.verdict.IsCrashOf tasks u.taken := by
  unfold verdict
  split
  · rfl
  · obtain ⟨d, hd⟩ := Option.ne_none_iff_exists'.1 (mt firstCrash_eq_none.1 hdead)
    obtain ⟨i, hi, task, htask, hcrash⟩ := hc.dead_crashed d (mem_of_firstCrash hd)
    rw [hd]
    exact ⟨i, hi, task, d.2, htask, hcrash, rfl⟩

end State

theorem Verdict.IsCrashOf.fate_eq {k : Nat} {verdict : Verdict ε α}
    (h : verdict.IsCrashOf tasks k) : verdict.fate = .crashed := by
  obtain ⟨_, _, _, _, _, _, rfl⟩ := h
  rfl

/-- Tasks of which none crashes give the batch of running them one after the other. -/
theorem execute_of_no_crash (hworkers : 0 < workers) (hnone : tasks.countP Task.crashes = 0) :
    ∃ report, execute tasks workers none = .returned report ∧
      report.batch = Batch.inTurn tasks := by
  have hresult : ∀ task ∈ tasks, task.ending.IsResult := by
    intro task htask
    rw [Ending.isResult_iff, ← Option.not_isSome_iff_eq_none]
    exact List.countP_eq_zero.1 hnone task htask
  obtain ⟨u, _, _, _, hexecute, hverdict⟩ := execute_none hresult fun _ => hworkers
  exact ⟨_, hexecute.trans hverdict, rfl⟩

/-- Where a run of the pool ends: with all inputs started if a worker is left, and otherwise behind
the crash that took the last one. -/
theorem execute_of_crashes (tasks : List (Task ε α)) (hworkers : 0 < workers) :
    ∃ k u, State.Ends tasks none (State.initial tasks.length workers) (List.range k) u ∧
      execute tasks workers none = u.verdict ∧ u.running = [] ∧
      (∀ i, u.started[i]?.join.isSome ↔ i < k) ∧
      (tasks.countP Task.crashes < workers → k = tasks.length ∧
        (0 < tasks.countP Task.crashes → u.verdict.IsCrashOf tasks k)) ∧
      (workers ≤ tasks.countP Task.crashes → ∃ p, IsNthCrash tasks workers p ∧ k = p + 1 ∧
        if p + 2 < tasks.length then u.verdict = .waitsForEver
        else u.verdict.IsCrashOf tasks k) := by
  obtain ⟨starts, u, hends, hexecute⟩ := execute_ends tasks workers none
  have hu := hends.accounted State.initial_accounted
  have hc := hends.counted State.initial_accounted (State.initial_counted _)
  have hstopped : u.stopped = false := hends.stopped_eq
  have hstarts : starts = List.range u.taken := by
    rw [hends.starts_eq State.initial_accounted, List.range_eq_range']
    simp [State.taken, State.initial]
  have hrunning :=
    (State.blocked_of_step_eq_none hends.halted hu.queued_lt hu.running_input_lt).1
  have hdead := hc.dead_eq hu hends.halted
  have hle : u.taken ≤ tasks.length := hu.taken_le.trans hu.dispatched_le
  have hall : u.dead.length ≤ tasks.countP Task.crashes := by
    rw [hdead, ← crashesBelow_length]
    exact crashesBelow_mono hle
  have hworkersEq := hu.workers_eq
  refine ⟨u.taken, u, hstarts ▸ hends, hexecute, hrunning, hu.started_isSome, ?_, ?_⟩
  · intro hlt
    obtain ⟨htaken, hmore⟩ := hu.all_taken hends.halted hstopped (by omega)
    refine ⟨htaken, fun hsome => ?_⟩
    rw [htaken, crashesBelow_length] at hdead
    have hverdict := hc.verdict_eq (List.length_pos_iff.1 (by omega))
    rwa [hmore, if_neg Bool.false_ne_true] at hverdict
  · intro hge
    have hnone : u.dead.length = workers := by
      by_contra hne
      obtain ⟨htaken, _⟩ := hu.all_taken hends.halted hstopped (by omega)
      rw [htaken, crashesBelow_length] at hdead
      omega
    obtain ⟨p, htaken, hnth, hmore⟩ := hc.all_dead hu hends.halted hstopped hworkers hnone
    refine ⟨p, hnth, htaken, ?_⟩
    simpa only [hmore] using hc.verdict_eq (List.length_pos_iff.1 (by omega))

/-- The durations have no part in the fate of tasks. -/
theorem fate_execute (tasks : List (Task ε α)) (hworkers : 0 < workers) :
    (execute tasks workers none).fate = fateOf tasks workers := by
  obtain ⟨k, u, _, hexecute, _, _, hfew, hmany⟩ := execute_of_crashes tasks hworkers
  unfold fateOf
  split
  · rename_i hnone
    obtain ⟨report, hreturned, hbatch⟩ := execute_of_no_crash hworkers hnone
    rw [hreturned, Verdict.fate, hbatch]
  · rename_i hsome
    rw [hexecute]
    rcases Nat.lt_or_ge (tasks.countP Task.crashes) workers with hlt | hge
    · have hbelow : crashesBelow tasks (tasks.length - 2) ≤ crashesBelow tasks tasks.length :=
        crashesBelow_mono (Nat.sub_le tasks.length 2)
      rw [crashesBelow_length] at hbelow
      rw [if_neg (by omega), ((hfew hlt).2 (by omega)).fate_eq]
    · obtain ⟨p, hnth, _, hverdict⟩ := hmany hge
      have hleft : workers ≤ crashesBelow tasks (tasks.length - 2) ↔ p + 2 < tasks.length := by
        rw [hnth.le_crashesBelow_iff]
        omega
      split at hverdict
      · rename_i hlt
        rw [hverdict, if_pos (hleft.2 hlt), Verdict.fate]
      · rename_i hnot
        rw [if_neg (mt hleft.1 hnot), hverdict.fate_eq]

end Pool

namespace Job

/-- The fate of a job with crashes. While they are fewer than the workers, all inputs are started
and have run to their end when a crash is passed on, or the batch returned if there is none. Else
just the inputs up to the crash that takes the last worker are started, and the job waits for ever
if more than one input comes after that, and passes on a crash if not. So a job that starts a task
that crashes returns no batch, and its fate does not depend on the durations. -/
theorem execute_never_of_crashes (job : Job ι ε α) (hne : job.inputs ≠ []) :
    ∃ k u, Pool.State.Ends (job.inputs.map job.task) none
        (Pool.State.initial job.inputs.length job.workers) (List.range k) u ∧
      job.execute .never = u.verdict ∧ u.running = [] ∧
      (∀ i, u.started[i]?.join.isSome ↔ i < k) ∧
      (job.inputs.countP (job.task · |>.crashes) < job.workers → k = job.inputs.length ∧
        if job.inputs.countP (job.task · |>.crashes) = 0 then
          ∃ report, u.verdict = .returned report ∧
            report.batch = Batch.inTurn (job.inputs.map job.task)
        else u.verdict.IsCrashOf (job.inputs.map job.task) k) ∧
      (job.workers ≤ job.inputs.countP (job.task · |>.crashes) →
        ∃ p, Pool.IsNthCrash (job.inputs.map job.task) job.workers p ∧ k = p + 1 ∧
          (u.verdict = .waitsForEver ↔ p + 2 < job.inputs.length) ∧
          (job.inputs.length ≤ p + 2 → u.verdict.IsCrashOf (job.inputs.map job.task) k)) ∧
      ((job.inputs.take k).any (job.task · |>.crashes) →
        ∀ report, u.verdict ≠ .returned report) ∧
      ∀ other : Job κ ε α, other.requested = job.requested →
        other.inputs.map (fun input => (other.task input).ending) =
          job.inputs.map (fun input => (job.task input).ending) →
        (other.execute .never).fate = (job.execute .never).fate := by
  have hworkers := workers_pos hne
  obtain ⟨k, u, hends, hexecute, hrunning, hstarted, hfew, hmany⟩ :=
    Pool.execute_of_crashes (job.inputs.map job.task) hworkers
  have hcount : (job.inputs.map job.task).countP Task.crashes =
      job.inputs.countP (job.task · |>.crashes) := by
    rw [List.countP_map]
    rfl
  rw [hcount] at hfew hmany
  rw [List.length_map] at hends hfew hmany
  have hpool := execute_never_eq_pool job
  refine ⟨k, u, hends, hpool.trans hexecute, hrunning, hstarted, ?_, ?_, ?_, ?_⟩
  · intro hlt
    obtain ⟨hall, hcrash⟩ := hfew hlt
    refine ⟨hall, ?_⟩
    split
    · rename_i hnone
      rw [← hexecute]
      exact Pool.execute_of_no_crash hworkers (hcount.trans hnone)
    · exact hcrash (by omega)
  · intro hge
    obtain ⟨p, hnth, hk, hverdict⟩ := hmany hge
    refine ⟨p, hnth, hk, ?_, ?_⟩
    · split at hverdict
      · rename_i hlt
        exact iff_of_true hverdict hlt
      · rename_i hnot
        refine iff_of_false (fun hwaits => ?_) hnot
        have hfate := hverdict.fate_eq
        rw [hwaits] at hfate
        cases hfate
    · intro hle
      rwa [if_neg (by omega)] at hverdict
  · intro hany report hreturned
    obtain ⟨input, hinput, hcrash⟩ := List.any_eq_true.1 hany
    have hsome : 0 < (job.inputs.map job.task).countP Task.crashes := by
      rw [hcount]
      exact List.countP_pos_iff.2 ⟨input, List.mem_of_mem_take hinput, hcrash⟩
    apply Pool.fateOf_ne_returned hsome report.batch
    rw [← Pool.fate_execute _ hworkers, hexecute, hreturned, Pool.Verdict.fate]
  · intro other hrequested hsame
    have hendings : (other.inputs.map other.task).map (·.ending) =
        (job.inputs.map job.task).map (·.ending) := by
      simpa only [List.map_map, Function.comp_def] using hsame
    have hlength : other.inputs.length = job.inputs.length := by
      simpa only [List.length_map] using congrArg List.length hsame
    have hother := workers_congr hrequested hlength
    rw [execute_never_eq_pool, hpool, Pool.fate_execute _ hworkers,
      Pool.fate_execute _ (hother ▸ hworkers), hother, Pool.fateOf_congr hendings]

/-- Six tasks on two workers, of which the second and the fourth crash. -/
def minefield : Job Nat String Nat :=
  ⟨[4, 0, 1, 0, 2, 3], 2, fun n => ⟨n, if n = 0 then .crash "over" else .value n⟩⟩

theorem execute_never_of_crashes_minefield :
    minefield.inputs ≠ [] ∧ minefield.execute .never = .waitsForEver ∧
      ∃ u : Pool.State String Nat, minefield.execute .never = u.verdict ∧
        ∀ i, u.started[i]?.join.isSome ↔ i < 4 := by
  have hne : minefield.inputs ≠ [] := by decide
  obtain ⟨k, u, _, hexecute, _, hstarted, _, hmany, _⟩ :=
    execute_never_of_crashes (κ := Nat) minefield hne
  obtain ⟨p, hnth, rfl, hwaits, _⟩ := hmany (by decide)
  have hat (k : Nat) : minefield.workers ≤ Pool.crashesBelow _ k ↔ p < k :=
    hnth.le_crashesBelow_iff k
  have hlt : p < 4 := (hat 4).1 (by decide)
  have hge : ¬ p < 3 := mt (hat 3).2 (by decide)
  obtain rfl : p = 3 := by omega
  exact ⟨hne, hexecute.trans (hwaits.2 (by decide)), u, hexecute, hstarted⟩

end Job

end DashboardRefresh
