import DashboardRefresh.Proofs.Pool.Completion
import DashboardRefresh.Proofs.Pool.Timing

/-!
# Jobs that are cancelled

A run that is cancelled and the run that is not go the same way until the dispatcher is stopped.
Then one input waits in the queue and every worker is busy, so that the input is still taken, by the
worker and at the time that it would have been. `State.Early` is what the common part keeps: all
inputs but the last one dispatched have been started by the time of the cancellation. `Cut` sets
the ends of the two runs side by side.
-/

namespace DashboardRefresh

variable {ι ε α : Type}

/-! ## Counting a prefix -/

theorem le_countP_of_take {β : Type} {p : β → Bool} {l : List β} {m : Nat} (hm : m ≤ l.length)
    (h : ∀ x ∈ l.take m, p x) : m ≤ l.countP p := by
  have htake : (l.take m).countP p = m := by
    rw [List.countP_eq_length.2 h, List.length_take, Nat.min_eq_left hm]
  calc
    m = (l.take m).countP p := htake.symm
    _ ≤ l.countP p := (List.take_sublist m l).countP_le

theorem countP_le_of_drop {β : Type} {p : β → Bool} {l : List β} {m : Nat}
    (h : ∀ x ∈ l.drop m, ¬p x) : l.countP p ≤ m := by
  have hdrop : (l.drop m).countP p = 0 := List.countP_eq_zero.2 h
  calc
    l.countP p = (l.take m).countP p + (l.drop m).countP p := by
      rw [← List.countP_append, List.take_append_drop]
    _ ≤ (l.take m).length + 0 := Nat.add_le_add List.countP_le_length hdrop.le
    _ ≤ m := List.length_take_le m l

namespace Pool

variable {tasks : List (Task ε α)} {workers c : Nat} {cancelAt : Option Nat}

namespace State

/-! ## Until the dispatcher is stopped -/

/-- The dispatcher goes on: it has inputs left only before `c`, and all but the last that it has
handed over were started by then. -/
structure Early (c : Nat) (s : State ε α) : Prop where
  not_stopped : s.stopped = false
  start_le : ∀ i start : Nat, i + 1 < s.dispatched → s.started[i]?.join = some start → start ≤ c
  clock_le : s.hasMore → s.clock ≤ c

theorem initial_early (n : Nat) : (initial n workers : State ε α).Early c where
  not_stopped := rfl
  start_le := by simp [initial]
  clock_le _ := Nat.zero_le c

theorem Early.step {s t : State ε α} (h : s.Accounted tasks workers) (ht : s.Timed tasks)
    (he : s.Early c) (hstep : s.step tasks (some c) = some t) (hstopped : t.stopped = false) :
    t.Early c := by
  cases move_of_step hstep with
  | @take i w ws task hqueued hidle htask =>
    have hsucc := h.queued_succ i hqueued
    refine ⟨hstopped, fun j start hj hstart => ?_, fun hmore => ?_⟩
    · simp only [start_dispatched] at hj
      simp only [start_started] at hstart
      rw [List.getElem?_set_ne (by omega)] at hstart
      exact he.start_le j start hj hstart
    · rw [start_clock]
      refine he.clock_le ?_
      simpa [hasMore] using hmore
  | finish hfirst _ _ _ huncancelled =>
    refine ⟨hstopped, by simpa using he.start_le, fun hmore => ?_⟩
    have hmore : s.hasMore := by simpa [hasMore] using hmore
    rw [finish_clock]
    exact max_le (he.clock_le hmore)
      ((huncancelled c rfl hmore).trans (max_le (he.clock_le hmore) (Nat.le_refl c)))
  | dispatch hqueued hmore =>
    have hclock := he.clock_le hmore
    exact ⟨hstopped, fun i start _ hstart => (ht.start_le i start hstart).trans hclock,
      fun _ => hclock⟩
  | cancel => simp at hstopped

theorem wait_none_of_wait {s t : State ε α} (hwait : s.wait tasks (some c) = some t)
    (hstopped : t.stopped = false) : s.wait tasks none = some t := by
  unfold wait at hwait ⊢
  dsimp only at hwait ⊢
  split at hwait
  · rw [← Option.some.inj hwait] at hstopped
    simp at hstopped
  · exact hwait

/-- The two runs make the same steps until one of them is cancelled. -/
theorem step_none_of_step {s t : State ε α} (hstep : s.step tasks (some c) = some t)
    (hstopped : t.stopped = false) : s.step tasks none = some t := by
  unfold step at hstep ⊢
  split at hstep
  · exact hstep
  · split
    · rename_i r hover
      rw [hover] at hstep
      exact hstep
    · rename_i hover
      rw [hover] at hstep
      dsimp only at hstep
      split at hstep
      · rename_i hfill
        exact (if_pos hfill).trans hstep
      · rename_i hfill
        exact (if_neg hfill).trans (wait_none_of_wait hstep hstopped)

/-! ## From then on -/

theorem finish_idle {s : State ε α} {r : Running} {task : Task ε α}
    (hresult : task.ending.IsResult) : (s.finish r task).idle = s.idle ++ [r.worker] := by
  unfold finish
  cases hending : task.ending with
  | value a => rfl
  | error e => rfl
  | crash message =>
    rw [hending] at hresult
    exact hresult.elim

/-- While every worker is busy and an input is queued, the next thing to happen is that the first
task ends. -/
theorem Ends.finish_of_busy {s u : State ε α} {starts : List Nat} {i : Nat}
    (hends : Ends tasks cancelAt s starts u) (h : s.Accounted tasks workers)
    (hqueued : s.queued = some i) (hidle : s.idle = []) (hrunning : s.running ≠ [])
    (hcancel : cancelAt = none ∨ s.stopped) :
    ∃ r task rest, soonest s.running = some r ∧ tasks[r.input]? = some task ∧
      Ends tasks cancelAt (s.finish r task) rest u := by
  cases hends with
  | done hhalted =>
    exact absurd (blocked_of_step_eq_none hhalted h.queued_lt h.running_input_lt).1 hrunning
  | next hstep hrest =>
    cases move_of_step hstep with
    | take _ htaken => simp [hidle] at htaken
    | @finish r task hfirst htask => exact ⟨r, task, _, hfirst, htask, hrest⟩
    | dispatch hempty => simp [hqueued] at hempty
    | cancel hc _ _ hmore =>
      rcases hcancel with hnone | hstopped
      · simp [hnone] at hc
      · simp [hasMore, hstopped] at hmore

/-- While a worker is idle and an input is queued, the next thing to happen is that it is taken. -/
theorem Ends.take_of_idle {s u : State ε α} {starts : List Nat} {i w : Nat} {ws : List Nat}
    (hends : Ends tasks cancelAt s starts u) (h : s.Accounted tasks workers)
    (hqueued : s.queued = some i) (hidle : s.idle = w :: ws) :
    ∃ task rest, tasks[i]? = some task ∧
      Ends tasks cancelAt ({ s with queued := none, idle := ws }.start w i task) rest u := by
  cases hends with
  | done hhalted =>
    have hblocked := (blocked_of_step_eq_none hhalted h.queued_lt h.running_input_lt).2.1
    simp [hqueued, hidle] at hblocked
  | next hstep hrest =>
    cases move_of_step hstep with
    | @take j v vs task hj hv htask =>
      obtain rfl := Option.some.inj (hqueued.symm.trans hj)
      obtain ⟨rfl, rfl⟩ := List.cons.inj (hidle.symm.trans hv)
      exact ⟨task, _, htask, hrest⟩
    | finish _ _ hblocked => simp [hqueued, hidle] at hblocked
    | dispatch hempty => simp [hqueued] at hempty
    | cancel _ _ hbusy => simp [hidle] at hbusy

/-- With a stopped dispatcher and an empty queue, tasks end and nothing else happens. -/
theorem Ends.of_stopped {s u : State ε α} {starts : List Nat}
    (hends : Ends tasks cancelAt s starts u) (hstopped : s.stopped) (hqueued : s.queued = none) :
    u.started = s.started ∧ u.dispatched = s.dispatched ∧ u.stopped := by
  induction hends with
  | done => exact ⟨rfl, rfl, hstopped⟩
  | next hstep _ ih =>
    cases move_of_step hstep with
    | take htaken => simp [hqueued] at htaken
    | finish => simpa using ih (by simpa using hstopped) (by simpa using hqueued)
    | dispatch _ hmore => simp [hasMore, hstopped] at hmore
    | cancel _ _ _ hmore => simp [hasMore, hstopped] at hmore

/-- The end `v` of a run that is cancelled at `c` beside the end `u` of the run that is not. -/
structure Cut (tasks : List (Task ε α)) (c : Nat) (u v : State ε α) : Prop where
  same : ∀ i < v.dispatched, v.started[i]? = u.started[i]?
  early : ∀ i start : Nat, i + 1 < v.dispatched → u.started[i]?.join = some start → start ≤ c
  late : v.stopped → ∀ i start : Nat,
    v.dispatched ≤ i + 1 → u.started[i]?.join = some start → c < start
  unfinished : v.stopped → 0 < v.dispatched ∧ v.dispatched < tasks.length

/-- A run that is cancelled with an input in the queue takes that input when the other run does, and
no further one. -/
theorem cut_of_cancel {s u v : State ε α} {starts cutStarts : List Nat} {i : Nat}
    (hresult : ∀ task ∈ tasks, task.ending.IsResult) (hworkers : 0 < workers)
    (h : s.Accounted tasks workers) (he : s.Early c)
    (hfull : Ends tasks none s starts u)
    (hcut : Ends tasks (some c) { s with clock := max s.clock c, stopped := true } cutStarts v)
    (hqueued : s.queued = some i) (hidle : s.idle = []) (hmore : s.hasMore)
    (hlater : ∀ r ∈ s.running, s.clock < r.ends ∧ c < r.ends) : Cut tasks c u v := by
  have hsucc := h.queued_succ i hqueued
  have htaken : s.taken = i := by simp [taken, hqueued]
  have hrunning := h.running_ne_nil hresult hworkers hidle
  -- The first task ends in both runs, at the same time and after `c`.
  obtain ⟨r, task, rest, hfirst, htask, hfull'⟩ :=
    hfull.finish_of_busy h hqueued hidle hrunning (.inl rfl)
  obtain ⟨r', task', cutRest, hfirst', htask', hcut'⟩ :=
    hcut.finish_of_busy (h.cancel c) hqueued hidle hrunning (.inr rfl)
  obtain rfl := Option.some.inj (hfirst.symm.trans hfirst')
  obtain rfl := Option.some.inj (htask.symm.trans htask')
  have hr := mem_of_soonest hfirst
  have hends := hlater r hr
  have hidleNow := hresult task (List.mem_of_getElem? htask)
  have hnow := h.finish hr htask
  -- Its worker takes the queued input in both runs.
  obtain ⟨next, _, hnext, hfull''⟩ :=
    hfull'.take_of_idle hnow (by simpa using hqueued) (by rw [finish_idle hidleNow, hidle]; rfl)
  obtain ⟨next', _, hnext', hcut''⟩ :=
    hcut'.take_of_idle ((h.cancel c).finish hr htask) (by simpa using hqueued)
      (by rw [finish_idle hidleNow, hidle]; rfl)
  obtain ⟨hstarted, hdispatched, hstopped⟩ := hcut''.of_stopped (by simp) (by simp)
  have hv : v.started = s.started.set i (some r.ends) := by
    rw [hstarted]
    simp [max_eq_right hends.1.le, max_eq_right hends.2.le]
  have hd : v.dispatched = i + 1 := by
    rw [hdispatched]
    simpa using hsucc.symm
  refine ⟨fun j hj => ?_, fun j start hj hstart => ?_, fun _ j start hj hstart => ?_, fun _ => ?_⟩
  · have htake := hnow.take (by simpa using hqueued)
      (by rw [finish_idle hidleNow, hidle]; rfl) hnext
    rw [hfull''.started_of_lt htake (by simp [taken]; omega), hv]
    simp [max_eq_right hends.1.le]
  · rw [hfull.started_of_lt h (by omega)] at hstart
    exact he.start_le j start (by omega) hstart
  · have hclock := hfull'.clock_le_start hnow (by simp [taken, hqueued]; omega) hstart
    rw [finish_clock] at hclock
    exact hends.2.trans_le ((le_max_right _ _).trans hclock)
  · simp only [hasMore, Bool.and_eq_true, decide_eq_true_eq, h.started_length] at hmore
    exact ⟨by omega, by omega⟩

/-- The two runs side by side, from any state that they have in common. -/
theorem cut_of_ends {s u v : State ε α} {starts cutStarts : List Nat}
    (hresult : ∀ task ∈ tasks, task.ending.IsResult) (hworkers : 0 < workers)
    (h : s.Accounted tasks workers) (ht : s.Timed tasks) (he : s.Early c)
    (hfull : Ends tasks none s starts u) (hcut : Ends tasks (some c) s cutStarts v) :
    Cut tasks c u v := by
  induction hcut generalizing starts with
  | @done s hhalted =>
    obtain ⟨hrunning, hqueued, hmore⟩ := h.finished hhalted hresult fun _ => hworkers
    have hstopped := he.not_stopped
    cases hfull with
    | done => exact ⟨fun _ _ => rfl, he.start_le, by simp [hstopped], by simp [hstopped]⟩
    | next hstep =>
      cases move_of_step hstep with
      | take htaken => simp [hqueued] at htaken
      | finish hfirst => simp [hrunning, soonest] at hfirst
      | dispatch _ hfill => simp [hmore] at hfill
      | cancel hc => simp at hc
  | @next s t v cutStarts hstep hrest ih =>
    cases hstopped : t.stopped with
    | false =>
      have hsame := step_none_of_step hstep hstopped
      cases hfull with
      | done hhalted => simp [hsame] at hhalted
      | next hstep' hrest' =>
        obtain rfl := Option.some.inj (hsame.symm.trans hstep')
        exact ih (h.step hstep) (ht.step h hresult hworkers hstep)
          (he.step h ht hstep hstopped) hrest'
    | true =>
      have hnot := he.not_stopped
      cases move_of_step hstep with
      | take => simp [hnot] at hstopped
      | finish => simp [hnot] at hstopped
      | dispatch => simp [hnot] at hstopped
      | @cancel c' i hc hqueued hidle hmore hlater =>
        obtain rfl := Option.some.inj hc
        exact cut_of_cancel hresult hworkers h he hfull hrest hqueued hidle hmore hlater

end State

/-! ## What the cancelled run reports -/

/-- How many tasks had been started by an instant. -/
def Report.startedBy (report : Report ε α) (c : Nat) : Nat :=
  report.started.countP (·.any (· ≤ c))

theorem State.Accounted.exists_start {u : State ε α} (h : u.Accounted tasks workers) {i : Nat}
    (hi : i < u.taken) : ∃ start, u.started[i]? = some (some start) := by
  obtain ⟨start, hstart⟩ := Option.isSome_iff_exists.1 ((h.started_isSome i).2 hi)
  exact ⟨start, join_eq_some.1 hstart⟩

/-- The number of inputs that the cancelled run starts, by what the other run had started at the
time. -/
theorem State.Cut.dispatched_eq {u v : State ε α} (hcut : Cut tasks c u v)
    (hu : u.Accounted tasks workers) (htaken : u.taken = tasks.length)
    (hmore : v.hasMore = false) (hv : v.Accounted tasks workers) :
    v.dispatched = min tasks.length (u.started.countP (·.any (· ≤ c)) + 1) := by
  have hle := hv.dispatched_le
  -- All but the last of the inputs that are handed over have been started by `c`.
  have hearly : v.dispatched - 1 ≤ u.started.countP (·.any (· ≤ c)) := by
    refine le_countP_of_take (by rw [hu.started_length]; omega) fun start hstart => ?_
    obtain ⟨i, hi, hget⟩ := List.mem_iff_getElem?.1 hstart |>.imp fun i hi => by
      rw [List.getElem?_take] at hi
      exact Option.ite_none_right_eq_some.1 hi
    obtain ⟨time, htime⟩ := hu.exists_start (i := i) (by omega)
    obtain rfl := Option.some.inj (hget.symm.trans htime)
    simpa using hcut.early i time (by omega) (join_eq_some.2 htime)
  cases hstopped : v.stopped with
  | false =>
    simp only [State.hasMore, hstopped, Bool.not_false, Bool.true_and, decide_eq_false_iff_not,
      hv.started_length] at hmore
    omega
  | true =>
    obtain ⟨hpos, hlt⟩ := hcut.unfinished hstopped
    have hlate : u.started.countP (·.any (· ≤ c)) ≤ v.dispatched - 1 := by
      refine countP_le_of_drop fun start hstart => ?_
      obtain ⟨i, hi⟩ := List.mem_iff_getElem?.1 hstart
      rw [List.getElem?_drop] at hi
      cases start with
      | none => simp
      | some time =>
        have hafter := hcut.late hstopped (v.dispatched - 1 + i) time (by omega)
          (join_eq_some.2 hi)
        simpa using hafter
    omega

/-- The starts of the cancelled run are the first ones of the other run. -/
theorem State.Cut.started_eq {u v : State ε α} (hcut : Cut tasks c u v)
    (hu : u.Accounted tasks workers) (hv : v.Accounted tasks workers)
    (hqueued : v.queued = none) :
    v.started =
      u.started.take v.dispatched ++ List.replicate (tasks.length - v.dispatched) none := by
  have hle := hv.dispatched_le
  have htaken : v.taken = v.dispatched := by simp [State.taken, hqueued]
  apply List.ext_getElem?
  intro i
  rw [List.getElem?_append, List.length_take, hu.started_length, Nat.min_eq_left hle,
    List.getElem?_replicate, List.getElem?_take]
  by_cases hi : i < v.dispatched
  · rw [if_pos hi, if_pos hi, hcut.same i hi]
  · rw [if_neg hi]
    have hnone : v.started[i]?.join = none := by
      rw [← Option.not_isSome_iff_eq_none, hv.started_isSome, htaken]
      exact hi
    by_cases hn : i < tasks.length
    · rw [if_pos (by omega), List.getElem?_eq_getElem (by rwa [hv.started_length])]
      rw [List.getElem?_eq_getElem (by rwa [hv.started_length]), Option.join_some] at hnone
      rw [hnone]
    · rw [if_neg (by omega), List.getElem?_eq_none (by rw [hv.started_length]; omega)]

/-- The cancelled run ends with the latest end among the tasks that it starts. -/
theorem State.Cut.clock_isGreatest {u v : State ε α} (hcut : Cut tasks c u v)
    (hv : v.Accounted tasks workers) (ht : v.Timed tasks) (hrunning : v.running = [])
    (hqueued : v.queued = none) (hpos : 0 < v.dispatched) :
    IsGreatest {e | ∃ i < v.dispatched, endOf tasks u.started i = some e} v.clock := by
  have htaken : v.taken = v.dispatched := by simp [State.taken, hqueued]
  have hset : {e | ∃ i < v.dispatched, endOf tasks u.started i = some e} =
      {e | ∃ i, endOf tasks v.started i = some e} := by
    ext e
    constructor
    · rintro ⟨i, hi, hend⟩
      exact ⟨i, (endOf_congr (hcut.same i hi)).trans hend⟩
    · rintro ⟨i, hend⟩
      obtain ⟨start, _, hstart, _⟩ := endOf_eq_some.1 hend
      have hi : i < v.dispatched := htaken ▸ (hv.started_isSome i).1 (by rw [hstart]; rfl)
      exact ⟨i, hi, (endOf_congr (hcut.same i hi)).symm.trans hend⟩
  rw [hset]
  exact ht.clock_isGreatest hv hrunning (htaken ▸ hpos)

/-- A run that is cancelled beside one that is not, from the beginning. -/
theorem execute_cut (hresult : ∀ task ∈ tasks, task.ending.IsResult) (hne : tasks ≠ [])
    (hworkers : 0 < workers) (c : Nat) :
    ∃ full cut : Report ε α,
      execute tasks workers none = .returned full ∧
      execute tasks workers (some c) = .returned cut ∧
      ∃ k, k = min tasks.length (full.startedBy c + 1) ∧
        (∃ v, State.Ends tasks (some c) (State.initial tasks.length workers) (List.range k) v ∧
          v.verdict = .returned cut) ∧
        (∀ i < k, (full.started[i]?.join).isSome) ∧
        cut.started = full.started.take k ++ List.replicate (tasks.length - k) none ∧
        cut.batch = { Batch.ofRecorded tasks (fun i => i < k) with
          interrupted := if k < tasks.length then some (.cancelled k tasks.length) else none } ∧
        IsGreatest {e | ∃ i < k, endOf tasks full.started i = some e} cut.elapsed := by
  obtain ⟨u, hfull, hu, htaken, hexecute, hverdict⟩ :=
    execute_none hresult fun _ => hworkers
  obtain ⟨starts, v, hcut, hcutExecute⟩ := execute_ends tasks workers (some c)
  have hv := hcut.accounted State.initial_accounted
  have ht := hcut.timed State.initial_accounted (State.initial_timed _ _) hresult hworkers
  have hside := State.cut_of_ends hresult hworkers State.initial_accounted
    (State.initial_timed _ _) (State.initial_early _) hfull hcut
  obtain ⟨hrunning, hqueued, hmore⟩ := hv.finished hcut.halted hresult fun _ => hworkers
  have hk := hside.dispatched_eq hu htaken hmore hv
  have hpos : 0 < v.dispatched := by
    have hlength := List.length_pos_iff.2 hne
    omega
  have hcutVerdict := State.verdict_eq hmore (hv.dead_eq_nil hresult)
  have hstarts : starts = List.range v.dispatched := by
    rw [hcut.starts_eq State.initial_accounted, List.range_eq_range']
    simp [State.taken, State.initial, hqueued]
  have hstopped : v.stopped ↔ v.dispatched < tasks.length := by
    refine ⟨fun hstopped => (hside.unfinished hstopped).2, fun hlt => ?_⟩
    simpa [State.hasMore, hv.started_length, hlt] using hmore
  refine ⟨_, _, hexecute.trans hverdict, hcutExecute.trans hcutVerdict, v.dispatched, hk,
    ⟨v, hstarts ▸ hcut, hcutVerdict⟩, fun i hi => ?_, hside.started_eq hu hv hqueued, ?_,
    hside.clock_isGreatest hv ht hrunning hqueued hpos⟩
  · exact (hu.started_isSome i).2 (by rw [htaken]; exact hi.trans_le hv.dispatched_le)
  · rw [hv.batch_of_finished hrunning hqueued, hv.started_length]
    simp only [hstopped]

end Pool

namespace Job

/-- A job that is cancelled beforehand runs nothing. -/
theorem execute_before {job : Job ι ε α} (hne : job.inputs ≠ []) :
    job.execute .before = notRun job.inputs.length (some (.cancelled 0 job.inputs.length)) := by
  obtain ⟨inputs, requested, task⟩ := job
  match inputs, hne with
  | _ :: _, _ => rfl

/-- A job without inputs cannot be interrupted. -/
theorem execute_nil {job : Job ι ε α} (hnil : job.inputs = []) (cancellation : Cancellation) :
    job.execute cancellation = notRun 0 none := by
  obtain ⟨inputs, requested, task⟩ := job
  obtain rfl : inputs = [] := hnil
  rfl

/-- Cancelling a job after it has begun: with `m` tasks started by then in the run that is not
cancelled, exactly the first `m + 1` inputs are run, or all of them, at the times of that run. The
batch holds their results and no others, and says how many inputs were handed over unless these were
all. The job returns at the latest end of these tasks. A job that is cancelled beforehand runs
nothing, and one without inputs is not interrupted. -/
theorem execute_atMillis_eq_prefix (job : Job ι ε α) (c : Nat) (hne : job.inputs ≠ [])
    (hresult : ∀ input ∈ job.inputs, (job.task input).ending.IsResult) :
    ∃ full cut,
      job.execute .never = .returned full ∧ job.execute (.atMillis c) = .returned cut ∧
      ∃ k, k = min job.inputs.length (full.startedBy c + 1) ∧
        (∃ v, Pool.State.Ends (job.inputs.map job.task) (some c)
          (Pool.State.initial job.inputs.length job.workers) (List.range k) v ∧
          v.verdict = .returned cut) ∧
        (∀ i < k, full.started[i]?.join.isSome) ∧
        cut.started = full.started.take k ++ List.replicate (job.inputs.length - k) none ∧
        cut.batch.outputs = (job.inputs.take k).map (fun input => (job.task input).ending.value?) ++
          List.replicate (job.inputs.length - k) none ∧
        cut.batch.errors = (job.inputs.take k).map (fun input => (job.task input).ending.error?) ++
          List.replicate (job.inputs.length - k) none ∧
        cut.batch.interrupted =
          (if k < job.inputs.length then some (.cancelled k job.inputs.length) else none) ∧
        IsGreatest {e | ∃ i < k, Pool.endOf (job.inputs.map job.task) full.started i = some e}
          cut.elapsed ∧
        job.execute .before = notRun job.inputs.length (some (.cancelled 0 job.inputs.length)) ∧
        ∀ cancellation, execute { job with inputs := [] } cancellation = notRun 0 none := by
  have htasks : ∀ task ∈ job.inputs.map job.task, task.ending.IsResult := by
    simpa using hresult
  obtain ⟨full, cut, hfull, hcut, k, hk, hends, hsome, hstarted, hbatch, helapsed⟩ :=
    Pool.execute_cut htasks (by simpa using hne) (workers_pos hne) c
  rw [List.length_map] at hk hends hstarted hbatch
  have hle : k ≤ (job.inputs.map job.task).length := by
    rw [List.length_map]
    omega
  have hslots {β : Type} (part : Ending ε α → Option β) :
      Batch.slotsOf part (job.inputs.map job.task) (fun i => i < k) =
        (job.inputs.take k).map (fun input => part (job.task input).ending) ++
          List.replicate (job.inputs.length - k) none := by
    rw [Batch.slotsOf_lt hle, ← List.map_take, List.map_map, List.length_map]
    rfl
  refine ⟨full, cut, (execute_never_eq_pool job).trans hfull,
    (execute_atMillis_eq_pool job c).trans hcut, k, hk, hends, hsome, hstarted, ?_, ?_, ?_,
    helapsed, execute_before hne, fun cancellation => execute_nil rfl cancellation⟩
  · rw [hbatch]
    exact hslots Ending.value?
  · rw [hbatch]
    exact hslots Ending.error?
  · rw [hbatch]

/-- Four tasks on one worker, each of which takes five milliseconds. -/
def queue : Job Nat String Nat := ⟨[1, 2, 3, 4], 1, fun n => ⟨5, .value n⟩⟩

theorem execute_atMillis_eq_prefix_queue :
    queue.inputs ≠ [] ∧ (∀ input ∈ queue.inputs, (queue.task input).ending.IsResult) ∧
      ∃ cut, queue.execute (.atMillis 7) = .returned cut ∧
        cut.batch = ⟨[some 1, some 2, some 3, none], List.replicate 4 none,
          some (.cancelled 3 4)⟩ := by
  have hne : queue.inputs ≠ [] := by decide
  have hresult : ∀ input ∈ queue.inputs, (queue.task input).ending.IsResult := by decide
  obtain ⟨full, cut, hfull, hcut, k, hk, _, _, _, houtputs, herrors, hinterrupted, _⟩ :=
    execute_atMillis_eq_prefix queue 7 hne hresult
  have hnever : queue.execute .never = .returned
      ⟨⟨[some 1, some 2, some 3, some 4], List.replicate 4 none, none⟩,
        [some 0, some 5, some 10, some 15], 1, 20⟩ := by rfl
  obtain rfl := Pool.Verdict.returned.inj (hfull.symm.trans hnever)
  obtain rfl : k = 3 := hk
  refine ⟨hne, hresult, cut, hcut, ?_⟩
  calc
    cut.batch = ⟨cut.batch.outputs, cut.batch.errors, cut.batch.interrupted⟩ := rfl
    _ = _ := by
      rw [houtputs, herrors, hinterrupted]
      rfl

end Job

end DashboardRefresh
