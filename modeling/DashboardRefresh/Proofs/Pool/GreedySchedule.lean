import DashboardRefresh.Proofs.Pool.Completion
import DashboardRefresh.Proofs.Pool.Timing
import Mathlib.Data.List.Perm.Subperm

/-!
# Greedy schedules

A pool without crashes that is never cancelled is a greedy schedule: tasks start in the order of
their inputs, never more than there are workers are under way at once, and while an input waits for
its start every worker is busy with an earlier one. `State.Greedy` says so of the starts made so
far. Before the clock they are final, and from the clock on the tasks under way are those that the
pool has under way, so that a step has to be looked at only where it moves the clock.
-/

namespace DashboardRefresh

variable {ι ε α : Type}

namespace Pool

/-- Whether the task of an input is under way at an instant: it has started by then, and its end is
still to come. -/
def isUnderWay (tasks : List (Task ε α)) (started : List (Option Nat)) (time i : Nat) : Bool :=
  started[i]?.join.any (· ≤ time) && (endOf tasks started i).any (time < ·)

/-- How many of the first `k` tasks are under way at an instant. -/
def underWay (tasks : List (Task ε α)) (started : List (Option Nat)) (k time : Nat) : Nat :=
  (List.range k).countP (isUnderWay tasks started time)

variable {tasks : List (Task ε α)} {started others : List (Option Nat)} {workers k time i : Nat}

/-! ## Counting the tasks under way -/

theorem isUnderWay_iff : isUnderWay tasks started time i ↔
    ∃ start ending, started[i]?.join = some start ∧ endOf tasks started i = some ending ∧
      start ≤ time ∧ time < ending := by
  unfold isUnderWay
  cases started[i]?.join <;> cases endOf tasks started i <;> simp

theorem isUnderWay_congr (h : others[i]? = started[i]?) :
    isUnderWay tasks others time i = isUnderWay tasks started time i := by
  unfold isUnderWay
  rw [endOf_congr h, h]

/-- A task that has no start is not under way. -/
theorem isUnderWay_of_join_eq_none (h : started[i]?.join = none) :
    isUnderWay tasks started time i = false := by
  unfold isUnderWay
  rw [h]
  rfl

/-- A start changes nothing at the instants before it. -/
theorem isUnderWay_set_of_lt {j clock : Nat} (hnone : started[j]?.join = none)
    (htime : time < clock) :
    isUnderWay tasks (started.set j (some clock)) time i = isUnderWay tasks started time i := by
  rcases eq_or_ne i j with rfl | hne
  · rw [isUnderWay_of_join_eq_none hnone]
    apply eq_false_of_ne_true
    intro hunderWay
    obtain ⟨start, _, hstart, _, hle, _⟩ := isUnderWay_iff.1 hunderWay
    rw [join_eq_some, List.getElem?_set_self'] at hstart
    cases hold : started[i]? <;> simp [hold] at hstart
    omega
  · exact isUnderWay_congr (List.getElem?_set_ne hne.symm)

theorem underWay_congr
    (h : ∀ i < k, isUnderWay tasks others time i = isUnderWay tasks started time i) :
    underWay tasks others k time = underWay tasks started k time := by
  apply List.countP_congr
  intro i hi
  rw [h i (List.mem_range.1 hi)]

theorem underWay_set_of_lt {j clock : Nat} (hnone : started[j]?.join = none)
    (htime : time < clock) :
    underWay tasks (started.set j (some clock)) k time = underWay tasks started k time :=
  underWay_congr fun _ _ => isUnderWay_set_of_lt hnone htime

/-- A start does not count among the tasks before it. -/
theorem underWay_set_of_le {j clock : Nat} (hle : k ≤ j) :
    underWay tasks (started.set j (some clock)) k time = underWay tasks started k time :=
  underWay_congr fun _ hi => isUnderWay_congr (List.getElem?_set_ne (by omega))

theorem underWay_le : underWay tasks started k time ≤ k := by
  calc
    underWay tasks started k time ≤ (List.range k).length := List.countP_le_length
    _ = k := List.length_range

namespace State

/-- A task that has not been taken has no start. -/
theorem Accounted.join_eq_none {s : State ε α} (h : s.Accounted tasks workers)
    (hi : s.taken ≤ i) : s.started[i]?.join = none := by
  rw [← Option.not_isSome_iff_eq_none, h.started_isSome]
  exact Nat.not_lt.2 hi

/-- The tasks that have not been taken count for nothing. -/
theorem Accounted.underWay_eq {s : State ε α} (h : s.Accounted tasks workers) (hk : s.taken ≤ k) :
    underWay tasks s.started k time = underWay tasks s.started s.taken time := by
  obtain ⟨more, rfl⟩ := Nat.exists_eq_add_of_le hk
  have hrest :
      ((List.range more).map (s.taken + ·)).countP (isUnderWay tasks s.started time) = 0 := by
    rw [List.countP_eq_zero]
    intro i hi
    obtain ⟨j, _, rfl⟩ := List.mem_map.1 hi
    rw [isUnderWay_of_join_eq_none (h.join_eq_none (Nat.le_add_right _ _))]
    exact Bool.false_ne_true
  rw [underWay, List.range_add, List.countP_append, hrest, Nat.add_zero, underWay]

/-- From the clock on the tasks under way are those that the pool has under way and that end
later. -/
theorem Timed.isUnderWay_iff {s : State ε α} (h : s.Accounted tasks workers) (ht : s.Timed tasks)
    (htime : s.clock ≤ time) :
    isUnderWay tasks s.started time i ↔ ∃ r ∈ s.running, r.input = i ∧ time < r.ends := by
  rw [Pool.isUnderWay_iff]
  constructor
  · rintro ⟨start, ending, hstart, hend, _, hlt⟩
    have htaken : i < s.taken := (h.started_isSome i).1 (by rw [hstart]; rfl)
    have hnot : ¬ s.recorded i := fun hrecorded => by
      have hle := ht.recorded_ends i ending hrecorded hend
      omega
    have hexists : ∃ r ∈ s.running, r.input = i := by
      by_contra hnone
      push Not at hnone
      exact hnot (recorded_iff.2 ⟨htaken, hnone⟩)
    obtain ⟨r, hr, rfl⟩ := hexists
    have hends := ht.running_ends r hr
    rw [hend, Option.some.injEq] at hends
    exact ⟨r, hr, rfl, hends ▸ hlt⟩
  · rintro ⟨r, hr, rfl, hlt⟩
    have hends := ht.running_ends r hr
    obtain ⟨start, task, hstart, _, _⟩ := endOf_eq_some.1 hends
    exact ⟨start, r.ends, hstart, hends, (ht.start_le _ _ hstart).trans htime, hlt⟩

theorem Timed.underWay_le_running {s : State ε α} (h : s.Accounted tasks workers)
    (ht : s.Timed tasks) (htime : s.clock ≤ time) :
    underWay tasks s.started k time ≤ s.running.length := by
  have hsubset : (List.range k).filter (isUnderWay tasks s.started time) ⊆
      s.running.map Running.input := by
    intro i hi
    obtain ⟨r, hr, hinput, _⟩ := (ht.isUnderWay_iff h htime).1 (List.mem_filter.1 hi).2
    exact List.mem_map.2 ⟨r, hr, hinput⟩
  calc
    underWay tasks s.started k time =
        ((List.range k).filter (isUnderWay tasks s.started time)).length :=
      List.countP_eq_length_filter
    _ ≤ (s.running.map Running.input).length :=
      ((List.nodup_range.filter _).subperm hsubset).length_le
    _ = s.running.length := List.length_map _

/-- Until the first of them ends all tasks of the pool count. -/
theorem Timed.running_le_underWay {s : State ε α} (h : s.Accounted tasks workers)
    (ht : s.Timed tasks) (htime : s.clock ≤ time) (hlater : ∀ r ∈ s.running, time < r.ends) :
    s.running.length ≤ underWay tasks s.started tasks.length time := by
  have hsubset : s.running.map Running.input ⊆
      (List.range tasks.length).filter (isUnderWay tasks s.started time) := by
    intro i hi
    obtain ⟨r, hr, rfl⟩ := List.mem_map.1 hi
    rw [List.mem_filter, List.mem_range]
    exact ⟨h.running_input_lt r hr, (ht.isUnderWay_iff h htime).2 ⟨r, hr, rfl, hlater r hr⟩⟩
  calc
    s.running.length = (s.running.map Running.input).length := (List.length_map _).symm
    _ ≤ ((List.range tasks.length).filter (isUnderWay tasks s.started time)).length :=
      (h.running_nodup.subperm hsubset).length_le
    _ = underWay tasks s.started tasks.length time := List.countP_eq_length_filter.symm

/-! ## What a step does to the schedule -/

theorem settle_peak (s : State ε α) (worker input : Nat) (ending : Ending ε α) :
    (s.settle worker input ending).peak = s.peak := by
  cases ending <;> rfl

theorem start_peak (s : State ε α) (worker input : Nat) (task : Task ε α) :
    (s.start worker input task).peak = max s.peak (s.running.length + 1) := by
  unfold start
  split <;> simp [settle_peak]

theorem finish_peak (s : State ε α) (r : Running) (task : Task ε α) :
    (s.finish r task).peak = s.peak := by
  simp [finish, settle_peak]

/-- The starts and the peak are the same after a step as before. -/
structure Rests (s t : State ε α) : Prop where
  taken_eq : t.taken = s.taken
  started_eq : t.started = s.started
  peak_eq : t.peak = s.peak

/-- In a step a worker takes the next input, at the time of the clock. -/
structure Takes (tasks : List (Task ε α)) (workers : Nat) (s t : State ε α) : Prop where
  taken_lt : s.taken < tasks.length
  running_lt : s.running.length < workers
  taken_eq : t.taken = s.taken + 1
  started_eq : t.started = s.started.set s.taken (some s.clock)
  peak_eq : t.peak = max s.peak (s.running.length + 1)
  clock_eq : t.clock = s.clock

section Step

variable {s t : State ε α} (h : s.Accounted tasks workers) (hstep : s.step tasks none = some t)
include h hstep

theorem rests_or_takes : Rests s t ∨ Takes tasks workers s t := by
  cases move_of_step hstep with
  | @take i w ws task hqueued hidle =>
    have hinput : s.taken = i := by simp [taken, hqueued]
    have hsum := h.workers_eq
    rw [hidle, List.length_cons] at hsum
    exact .inr
      { taken_lt := hinput ▸ h.queued_lt i hqueued
        running_lt := by omega
        taken_eq := by simp [taken, hqueued, h.queued_succ i hqueued]
        started_eq := by rw [start_started, hinput]
        peak_eq := start_peak _ _ _ _
        clock_eq := start_clock _ _ _ _ }
  | finish => exact .inl ⟨by simp [taken], finish_started _ _ _, finish_peak _ _ _⟩
  | dispatch hqueued => exact .inl ⟨by simp [taken, hqueued], rfl, rfl⟩
  | cancel hc => cases hc

/-- While an input is left to take, time moves on only if every worker is busy, and not beyond the
end of any task. -/
theorem busy_of_clock_lt (hresult : ∀ task ∈ tasks, task.ending.IsResult)
    (hstopped : s.stopped = false) (hleft : s.taken < tasks.length) (hclock : s.clock < t.clock) :
    s.running.length = workers ∧ ∀ r ∈ s.running, t.clock ≤ r.ends := by
  cases move_of_step hstep with
  | take => exact absurd hclock (by simp)
  | @finish r task hfirst _ hblocked hfull =>
    rw [finish_clock] at hclock ⊢
    have hqueued : s.queued ≠ none := by
      intro hnone
      have hmore : s.hasMore := by
        simpa [hasMore, hstopped, h.started_length, taken, hnone] using hleft
      have hends := hfull hnone hmore
      omega
    have hidle : s.idle = [] := hblocked.resolve_left hqueued
    have hsum := h.workers_eq
    simp only [hidle, h.dead_eq_nil hresult, List.length_nil] at hsum
    refine ⟨by omega, fun q hq => ?_⟩
    have hle := ends_le_of_soonest hfirst q hq
    omega
  | dispatch => exact absurd hclock (Nat.lt_irrefl _)
  | cancel hc => cases hc

end Step

/-! ## Greedy states -/

/-- The starts made so far are those of a greedy schedule on some workers. -/
structure Greedy (tasks : List (Task ε α)) (workers : Nat) (s : State ε α) : Prop where
  start_mono : ∀ i j a b : Nat, i ≤ j → s.started[i]?.join = some a →
    s.started[j]?.join = some b → a ≤ b
  underWay_le : ∀ time, underWay tasks s.started tasks.length time ≤ workers
  /-- While an input is left to take, every worker has been busy up to now. -/
  full : s.taken < tasks.length → ∀ time < s.clock,
    underWay tasks s.started tasks.length time = workers
  /-- Until an input was taken, every worker was busy with an earlier one. -/
  full_before : ∀ i start : Nat, s.started[i]?.join = some start → ∀ time < start,
    underWay tasks s.started i time = workers
  peak_le : s.peak ≤ workers
  le_peak : (∀ task ∈ tasks, 0 < task.duration) → min s.taken workers ≤ s.peak

theorem initial_greedy : (initial tasks.length workers : State ε α).Greedy tasks workers := by
  have hnone (i : Nat) : (initial tasks.length workers : State ε α).started[i]?.join = none :=
    initial_accounted.join_eq_none (Nat.zero_le i)
  refine
    { start_mono := fun i _ _ _ _ hstart => by simp [hnone i] at hstart
      underWay_le := fun time => ?_
      full := fun _ _ htime => absurd htime (Nat.not_lt_zero _)
      full_before := fun i _ hstart => by simp [hnone i] at hstart
      peak_le := Nat.zero_le _
      le_peak := fun _ => Nat.min_le_left _ _ }
  rw [initial_accounted.underWay_eq (Nat.zero_le _)]
  exact Pool.underWay_le.trans (Nat.zero_le _)

theorem Greedy.rest {s t : State ε α} (hg : s.Greedy tasks workers) (hrests : Rests s t)
    (hfull : s.taken < tasks.length → ∀ time < t.clock,
      underWay tasks s.started tasks.length time = workers) : t.Greedy tasks workers where
  start_mono := hrests.started_eq ▸ hg.start_mono
  underWay_le := hrests.started_eq ▸ hg.underWay_le
  full := by
    rw [hrests.taken_eq, hrests.started_eq]
    exact hfull
  full_before := hrests.started_eq ▸ hg.full_before
  peak_le := hrests.peak_eq ▸ hg.peak_le
  le_peak := by
    rw [hrests.taken_eq, hrests.peak_eq]
    exact hg.le_peak

section Take

variable {s t : State ε α} (h : s.Accounted tasks workers) (ht : s.Timed tasks)
  (hg : s.Greedy tasks workers) (htakes : Takes tasks workers s t)
include h htakes

/-- The start that is made is the only new one. -/
theorem Takes.join_eq_some {i start : Nat} :
    t.started[i]?.join = some start ↔
      (i = s.taken ∧ start = s.clock) ∨ s.started[i]?.join = some start := by
  rw [htakes.started_eq]
  rcases eq_or_ne i s.taken with rfl | hne
  · have hinput : s.taken < s.started.length := h.started_length ▸ htakes.taken_lt
    rw [List.getElem?_set_self hinput, h.join_eq_none (Nat.le_refl _)]
    simp [eq_comm]
  · rw [List.getElem?_set_ne hne.symm]
    simp [hne]

theorem Takes.underWay_of_lt_clock {time k : Nat} (htime : time < s.clock) :
    underWay tasks t.started k time = underWay tasks s.started k time := by
  rw [htakes.started_eq]
  exact underWay_set_of_lt (h.join_eq_none (Nat.le_refl _)) htime

include hg

theorem Greedy.start_mono_take (ht : s.Timed tasks) (i j a b : Nat) (hij : i ≤ j)
    (hi : t.started[i]?.join = some a) (hj : t.started[j]?.join = some b) : a ≤ b := by
  rw [htakes.join_eq_some h] at hi hj
  rcases hi with ⟨rfl, rfl⟩ | hi <;> rcases hj with ⟨rfl, rfl⟩ | hj
  · exact Nat.le_refl _
  · -- No input after the one that is taken has a start.
    rw [h.join_eq_none hij] at hj
    cases hj
  · exact ht.start_le i a hi
  · exact hg.start_mono i j a b hij hi hj

theorem Greedy.underWay_le_take (ht : t.Timed tasks) (ha : t.Accounted tasks workers)
    (time : Nat) : underWay tasks t.started tasks.length time ≤ workers := by
  rcases Nat.lt_or_ge time s.clock with hbefore | hfrom
  · rw [htakes.underWay_of_lt_clock h hbefore]
    exact hg.underWay_le time
  · have hsum := ha.workers_eq
    calc
      underWay tasks t.started tasks.length time ≤ t.running.length :=
        ht.underWay_le_running ha (htakes.clock_eq ▸ hfrom)
      _ ≤ workers := by omega

theorem Greedy.full_before_take (i start : Nat) (hstart : t.started[i]?.join = some start)
    (time : Nat) (htime : time < start) : underWay tasks t.started i time = workers := by
  rcases (htakes.join_eq_some h).1 hstart with ⟨rfl, rfl⟩ | hold
  · calc
      underWay tasks t.started s.taken time = underWay tasks s.started s.taken time :=
        htakes.underWay_of_lt_clock h htime
      _ = underWay tasks s.started tasks.length time :=
        (h.underWay_eq htakes.taken_lt.le).symm
      _ = workers := hg.full htakes.taken_lt time htime
  · have htaken : i < s.taken := (h.started_isSome i).1 (by rw [hold]; rfl)
    rw [htakes.started_eq, underWay_set_of_le htaken.le]
    exact hg.full_before i start hold time htime

/-- As long as a worker is idle time has not moved, and no task that takes time is over. -/
theorem Greedy.le_peak_take (ht : s.Timed tasks) (hpos : ∀ task ∈ tasks, 0 < task.duration) :
    min t.taken workers ≤ t.peak := by
  rw [htakes.taken_eq, htakes.peak_eq]
  rcases Nat.lt_or_ge s.taken workers with hidle | hbusy
  · have hclock : s.clock = 0 := by
      by_contra hmoved
      have hfull := hg.full htakes.taken_lt 0 (Nat.pos_of_ne_zero hmoved)
      rw [h.underWay_eq htakes.taken_lt.le] at hfull
      have hle : underWay tasks s.started s.taken 0 ≤ s.taken := Pool.underWay_le
      omega
    have hall : List.range s.taken ⊆ s.running.map Running.input := by
      intro i hi
      have htaken := List.mem_range.1 hi
      by_contra hnot
      have hrecorded : s.recorded i := recorded_iff.2 ⟨htaken, fun r hr hinput =>
        hnot (List.mem_map.2 ⟨r, hr, hinput⟩)⟩
      obtain ⟨start, hstart⟩ := Option.isSome_iff_exists.1 ((h.started_isSome i).2 htaken)
      have hinput : i < tasks.length := htaken.trans htakes.taken_lt
      have hend : endOf tasks s.started i = some (start + tasks[i].duration) :=
        endOf_eq_some.2 ⟨start, tasks[i], hstart, List.getElem?_eq_getElem hinput, rfl⟩
      have hle := ht.recorded_ends i _ hrecorded hend
      have htask := hpos tasks[i] (List.getElem_mem hinput)
      omega
    have hlength : s.taken ≤ s.running.length := by
      calc
        s.taken = (List.range s.taken).length := List.length_range.symm
        _ ≤ (s.running.map Running.input).length := (List.nodup_range.subperm hall).length_le
        _ = s.running.length := List.length_map _
    omega
  · have hle := hg.le_peak hpos
    omega

end Take

theorem Greedy.take {s t : State ε α} (h : s.Accounted tasks workers) (ht : s.Timed tasks)
    (hg : s.Greedy tasks workers) (htakes : Takes tasks workers s t)
    (ha : t.Accounted tasks workers) (ht' : t.Timed tasks) : t.Greedy tasks workers where
  start_mono := hg.start_mono_take h htakes ht
  underWay_le := hg.underWay_le_take h htakes ht' ha
  full _ time htime := by
    rw [htakes.clock_eq] at htime
    rw [htakes.underWay_of_lt_clock h htime]
    exact hg.full htakes.taken_lt time htime
  full_before := hg.full_before_take h htakes
  peak_le := by
    rw [htakes.peak_eq]
    exact max_le hg.peak_le htakes.running_lt
  le_peak := hg.le_peak_take h htakes ht

/-- Every step of a pool that is not cancelled keeps to a greedy schedule. -/
theorem Greedy.step {s t : State ε α} (h : s.Accounted tasks workers) (ht : s.Timed tasks)
    (hg : s.Greedy tasks workers) (hresult : ∀ task ∈ tasks, task.ending.IsResult)
    (hworkers : 0 < workers) (hstopped : s.stopped = false)
    (hstep : s.step tasks none = some t) : t.Greedy tasks workers := by
  rcases rests_or_takes h hstep with hrests | htakes
  · refine hg.rest hrests fun hleft time htime => ?_
    rcases Nat.lt_or_ge time s.clock with hbefore | hfrom
    · exact hg.full hleft time hbefore
    · obtain ⟨hbusy, hends⟩ :=
        busy_of_clock_lt h hstep hresult hstopped hleft (hfrom.trans_lt htime)
      apply le_antisymm (hg.underWay_le time)
      calc
        workers = s.running.length := hbusy.symm
        _ ≤ underWay tasks s.started tasks.length time :=
          ht.running_le_underWay h hfrom fun r hr => htime.trans_le (hends r hr)
  · exact hg.take h ht htakes (h.step hstep) (ht.step h hresult hworkers hstep)

theorem Ends.greedy {s u : State ε α} {starts : List Nat} (hends : Ends tasks none s starts u)
    (h : s.Accounted tasks workers) (ht : s.Timed tasks) (hg : s.Greedy tasks workers)
    (hresult : ∀ task ∈ tasks, task.ending.IsResult) (hworkers : 0 < workers)
    (hstopped : s.stopped = false) : u.Greedy tasks workers := by
  induction hends with
  | done => exact hg
  | next hstep _ ih =>
    exact ih (h.step hstep) (ht.step h hresult hworkers hstep)
      (hg.step h ht hresult hworkers hstopped hstep) ((stopped_of_step hstep).trans hstopped)

end State

/-! ## Whole runs -/

/-- What a pool shows is a greedy schedule of its tasks on some workers. -/
structure Report.IsGreedy (tasks : List (Task ε α)) (workers : Nat) (report : Report ε α) :
    Prop where
  all_started : ∀ i < tasks.length, report.started[i]?.join.isSome
  start_mono : ∀ i j a b : Nat, i ≤ j → report.started[i]?.join = some a →
    report.started[j]?.join = some b → a ≤ b
  underWay_le : ∀ time, underWay tasks report.started tasks.length time ≤ workers
  /-- No worker is idle while an input waits. -/
  full_before : ∀ i start : Nat, report.started[i]?.join = some start → ∀ time < start,
    underWay tasks report.started i time = workers
  elapsed_isGreatest : tasks ≠ [] →
    IsGreatest {e | ∃ i, endOf tasks report.started i = some e} report.elapsed
  peak_le : report.peak ≤ workers
  peak_eq : (∀ task ∈ tasks, 0 < task.duration) → report.peak = workers

theorem Report.isGreedy_nil (batch : Batch ε α) :
    (⟨batch, [], 0, 0⟩ : Report ε α).IsGreedy [] 0 where
  all_started i hi := absurd hi (Nat.not_lt_zero i)
  start_mono i j a b _ hi := by cases hi
  underWay_le _ := Nat.le_refl 0
  full_before i start hi := by cases hi
  elapsed_isGreatest hne := absurd rfl hne
  peak_le := Nat.le_refl 0
  peak_eq _ := rfl

theorem execute_none_isGreedy (hresult : ∀ task ∈ tasks, task.ending.IsResult)
    (hworkers : 0 < workers) (hle : workers ≤ tasks.length) :
    ∃ report, execute tasks workers none = .returned report ∧ report.IsGreedy tasks workers := by
  obtain ⟨u, hends, hu, htaken, hexecute, hverdict⟩ := execute_none hresult fun _ => hworkers
  have ht := hends.timed State.initial_accounted (State.initial_timed _ _) hresult hworkers
  have hg := hends.greedy State.initial_accounted (State.initial_timed _ _) State.initial_greedy
    hresult hworkers rfl
  have hrunning := (hu.finished hends.halted hresult fun _ => hworkers).1
  refine ⟨_, hexecute.trans hverdict, ?_⟩
  exact
    { all_started := fun i hi => (hu.started_isSome i).2 (htaken ▸ hi)
      start_mono := hg.start_mono
      underWay_le := hg.underWay_le
      full_before := hg.full_before
      elapsed_isGreatest := fun _ => ht.clock_isGreatest hu hrunning (by omega)
      peak_le := hg.peak_le
      peak_eq := fun hpos => by
        have hpeak := hg.le_peak hpos
        rw [htaken, Nat.min_eq_right hle] at hpeak
        exact le_antisymm hg.peak_le hpeak }

end Pool

namespace Job

theorem workers_le (job : Job ι ε α) : job.workers ≤ job.inputs.length := Nat.min_le_right _ _

/-- A job without crashes that is never cancelled is a greedy schedule on its workers, of which
there are as many as were asked for, or ten if none were, but no more than inputs. Its tasks start
in the order of their inputs, at no instant are more of them under way than there are workers, and
before the start of a task every worker is always busy with an earlier one. The job returns at the
latest end of a task, and if every task takes time its peak is the number of workers. -/
theorem execute_never_isGreedy (job : Job ι ε α)
    (hresult : ∀ input ∈ job.inputs, (job.task input).ending.IsResult) :
    job.workers = min (if job.requested = 0 then 10 else job.requested) job.inputs.length ∧
      ∃ report, job.execute .never = .returned report ∧
        report.IsGreedy (job.inputs.map job.task) job.workers := by
  refine ⟨rfl, ?_⟩
  rw [execute_never_eq_pool]
  rcases eq_or_ne job.inputs [] with hnil | hne
  · have hworkers : job.workers = 0 := by
      have hle := job.workers_le
      rw [hnil] at hle
      exact Nat.le_zero.1 hle
    rw [hnil, hworkers]
    exact ⟨_, rfl, Pool.Report.isGreedy_nil (Batch.empty 0)⟩
  · apply Pool.execute_none_isGreedy (by simpa using hresult) (workers_pos hne)
    rw [List.length_map]
    exact job.workers_le

/-- Four tasks on two workers. The first two start at once, the third when the second is over, and
the last one when the first and the third are. -/
def relay : Job Nat String Nat := ⟨[3, 1, 2, 4], 2, fun n => ⟨n, .value n⟩⟩

/-- A relay has both workers busy until its last task starts, and lasts until that one is over. -/
theorem execute_never_isGreedy_relay :
    (∀ input ∈ relay.inputs, (relay.task input).ending.IsResult) ∧
      ∃ report, relay.execute .never = .returned report ∧
        report.started = [some 0, some 0, some 1, some 3] ∧
        (∀ time < 3, Pool.underWay (relay.inputs.map relay.task) report.started 3 time = 2) ∧
        report.peak = 2 ∧ report.elapsed = 7 := by
  have hresult : ∀ input ∈ relay.inputs, (relay.task input).ending.IsResult := by decide
  obtain ⟨hworkers, report, hreturned, hgreedy⟩ := execute_never_isGreedy relay hresult
  have hexecute : relay.execute .never = .returned
      ⟨⟨[some 3, some 1, some 2, some 4], List.replicate 4 none, none⟩,
        [some 0, some 0, some 1, some 3], 2, 7⟩ := rfl
  obtain rfl := Pool.Verdict.returned.inj (hreturned.symm.trans hexecute)
  exact ⟨hresult, _, hreturned, rfl, hgreedy.full_before 3 3 rfl,
    hgreedy.peak_eq (by decide), rfl⟩

end Job

end DashboardRefresh
