import DashboardRefresh.Proofs.Pool.Progress
import Mathlib.Order.Bounds.Defs

/-!
# When tasks start and end

The clock of the pool never runs backwards. A start, once made, stays as it is, and later starts are
not earlier than the clock. `State.Timed` ties the clock to the tasks: those under way end at their
start and duration and not before the clock, those that are over have ended by the clock, and the
clock has not run past the end of every task. At the end of a run it therefore shows the latest end.
-/

namespace DashboardRefresh.Pool

variable {ε α : Type}

/-- When the task of an input ends, by the starts of the tasks. -/
def endOf (tasks : List (Task ε α)) (started : List (Option Nat)) (i : Nat) : Option Nat :=
  match started[i]?.join, tasks[i]? with
  | some start, some task => some (start + task.duration)
  | _, _ => none

variable {tasks : List (Task ε α)} {cancelAt : Option Nat} {workers : Nat}

theorem endOf_eq_some {started : List (Option Nat)} {i e : Nat} :
    endOf tasks started i = some e ↔
      ∃ start task, started[i]?.join = some start ∧ tasks[i]? = some task ∧
        start + task.duration = e := by
  unfold endOf
  cases hstart : started[i]?.join <;> cases htask : tasks[i]? <;> simp

/-- A start is one of those there are. -/
theorem join_eq_some {started : List (Option Nat)} {i start : Nat} :
    started[i]?.join = some start ↔ started[i]? = some (some start) := by
  cases started[i]? <;> simp

theorem endOf_congr {started others : List (Option Nat)} {i : Nat}
    (h : others[i]? = started[i]?) : endOf tasks others i = endOf tasks started i := by
  unfold endOf
  rw [h]

namespace State

/-! ## The clock and the starts -/

/-- A step takes no time back. -/
theorem clock_le_of_step {s t : State ε α} (hstep : s.step tasks cancelAt = some t) :
    s.clock ≤ t.clock := by
  cases move_of_step hstep with
  | take => simp
  | finish => simp
  | dispatch => exact Nat.le_refl _
  | cancel => exact le_max_left _ _

/-- A step makes no start, or that of the next input at the time of the clock. -/
theorem started_of_step {s t : State ε α} (h : s.Accounted tasks workers)
    (hstep : s.step tasks cancelAt = some t) :
    (t.taken = s.taken ∧ t.started = s.started) ∨
      (t.taken = s.taken + 1 ∧ t.started = s.started.set s.taken (some s.clock)) := by
  cases move_of_step hstep with
  | take hqueued =>
    have hsucc := h.queued_succ _ hqueued
    refine .inr ⟨?_, ?_⟩ <;> simp [taken, hqueued, hsucc]
  | finish => exact .inl ⟨by simp [taken], by simp⟩
  | dispatch hqueued => exact .inl ⟨by simp [taken, hqueued], rfl⟩
  | cancel => exact .inl ⟨rfl, rfl⟩

/-- A start stays as it is. -/
theorem Ends.started_of_lt {s u : State ε α} {starts : List Nat}
    (hends : Ends tasks cancelAt s starts u) (h : s.Accounted tasks workers) {i : Nat}
    (hi : i < s.taken) : u.started[i]? = s.started[i]? := by
  induction hends with
  | done => rfl
  | next hstep _ ih =>
    rcases started_of_step h hstep with ⟨htaken, hstarted⟩ | ⟨htaken, hstarted⟩
    · rw [ih (h.step hstep) (htaken ▸ hi), hstarted]
    · rw [ih (h.step hstep) (by omega), hstarted, List.getElem?_set_ne (by omega)]

/-- A start that is still to come is not before the clock. -/
theorem Ends.clock_le_start {s u : State ε α} {starts : List Nat}
    (hends : Ends tasks cancelAt s starts u) (h : s.Accounted tasks workers) {i start : Nat}
    (hi : s.taken ≤ i) (hstart : u.started[i]?.join = some start) : s.clock ≤ start := by
  induction hends with
  | @done s _ =>
    have hlt := (h.started_isSome i).1 (by rw [hstart]; rfl)
    omega
  | @next s t u _ hstep hrest ih =>
    have ht := h.step hstep
    rcases started_of_step h hstep with ⟨htaken, _⟩ | ⟨htaken, hstarted⟩
    · exact (clock_le_of_step hstep).trans (ih ht (htaken ▸ hi) hstart)
    · rcases Nat.eq_or_lt_of_le hi with rfl | hlt
      · have hinput : s.taken < tasks.length := by
          have htle := ht.taken_le
          have hdispatched := ht.dispatched_le
          omega
        rw [hrest.started_of_lt ht (by omega), hstarted,
          List.getElem?_set_self (h.started_length ▸ hinput), Option.join_some,
          Option.some.injEq] at hstart
        exact hstart.le
      · exact (clock_le_of_step hstep).trans (ih ht (by omega) hstart)

/-! ## The clock and the ends -/

/-- The clock agrees with the starts and the durations of the tasks. -/
structure Timed (tasks : List (Task ε α)) (s : State ε α) : Prop where
  start_le : ∀ (i start : Nat), s.started[i]?.join = some start → start ≤ s.clock
  running_ends : ∀ r ∈ s.running, endOf tasks s.started r.input = some r.ends
  clock_le : ∀ r ∈ s.running, s.clock ≤ r.ends
  recorded_ends : ∀ i e, s.recorded i → endOf tasks s.started i = some e → e ≤ s.clock
  clock_reached : s.clock = 0 ∨ ∃ i e, endOf tasks s.started i = some e ∧ s.clock ≤ e

theorem initial_timed (n workers : Nat) : (initial n workers : State ε α).Timed tasks where
  start_le i start hstart := by
    rw [join_eq_some] at hstart
    simp [initial, List.getElem?_replicate] at hstart
  running_ends := by simp [initial]
  clock_le := by simp [initial]
  recorded_ends := by simp [initial, recorded, taken]
  clock_reached := .inl rfl

theorem Timed.finish {s : State ε α} {r : Running} {task : Task ε α}
    (h : s.Accounted tasks workers) (ht : s.Timed tasks) (hr : r ∈ s.running)
    (hfirst : ∀ q ∈ s.running, r.ends ≤ q.ends) : (s.finish r task).Timed tasks where
  start_le i start hstart := by
    rw [finish_started] at hstart
    rw [finish_clock]
    exact (ht.start_le i start hstart).trans (le_max_left _ _)
  running_ends q hq := by
    rw [finish_running] at hq
    rw [finish_started]
    exact ht.running_ends q (List.mem_of_mem_erase hq)
  clock_le q hq := by
    rw [finish_running] at hq
    have hq := List.mem_of_mem_erase hq
    rw [finish_clock]
    exact max_le (ht.clock_le q hq) (hfirst q hq)
  recorded_ends i e hrecorded hend := by
    rw [recorded_finish h hr] at hrecorded
    rw [finish_started] at hend
    rw [finish_clock]
    rcases Bool.or_eq_true_iff.1 hrecorded with hi | hi
    · obtain rfl := eq_of_beq hi
      rw [ht.running_ends r hr, Option.some.injEq] at hend
      exact hend ▸ le_max_right _ _
    · exact (ht.recorded_ends i e hi hend).trans (le_max_left _ _)
  clock_reached := by
    rw [finish_clock, finish_started]
    exact .inr ⟨r.input, r.ends, ht.running_ends r hr, max_le (ht.clock_le r hr) (Nat.le_refl _)⟩

theorem Timed.begin {s : State ε α} {i w : Nat} {ws : List Nat} {task : Task ε α}
    (h : s.Accounted tasks workers) (ht : s.Timed tasks) (hqueued : s.queued = some i)
    (htask : tasks[i]? = some task) :
    ({ s with queued := none, idle := ws }.begin w i task).Timed tasks := by
  have hsucc := h.queued_succ i hqueued
  have hinput : i < s.started.length := h.started_length ▸ h.queued_lt i hqueued
  have hself : endOf tasks (s.started.set i (some s.clock)) i = some (s.clock + task.duration) :=
    endOf_eq_some.2 ⟨s.clock, task, by rw [List.getElem?_set_self hinput, Option.join_some], htask,
      rfl⟩
  have hother (j : Nat) (hj : j ≠ i) :
      endOf tasks (s.started.set i (some s.clock)) j = endOf tasks s.started j :=
    endOf_congr (List.getElem?_set_ne hj.symm)
  -- The task had no end before, because it had no start.
  have hnew {e : Nat} (hend : endOf tasks s.started i = some e) : False := by
    obtain ⟨start, _, hstart, _⟩ := endOf_eq_some.1 hend
    have hlt := (h.started_isSome i).1 (by rw [hstart]; rfl)
    simp [taken, hqueued] at hlt
  refine
    { start_le := fun j start hstart => ?_
      running_ends := fun q hq => ?_
      clock_le := fun q hq => ?_
      recorded_ends := fun j e hrecorded hend => ?_
      clock_reached := ?_ }
  · rw [join_eq_some] at hstart
    rcases eq_or_ne j i with rfl | hj
    · simp only [State.begin, List.getElem?_set_self hinput, Option.some.injEq] at hstart
      exact hstart.ge
    · simp only [State.begin, List.getElem?_set_ne hj.symm] at hstart
      exact ht.start_le j start (join_eq_some.2 hstart)
  · rcases List.mem_append.1 hq with hq | hq
    · exact (hother _ (h.queued_fresh hqueued q hq)).trans (ht.running_ends q hq)
    · obtain rfl := List.mem_singleton.1 hq
      exact hself
  · rcases List.mem_append.1 hq with hq | hq
    · exact ht.clock_le q hq
    · obtain rfl := List.mem_singleton.1 hq
      exact Nat.le_add_right _ _
  · obtain ⟨hlt, hnone⟩ := recorded_iff.1 hrecorded
    simp only [State.begin, taken, Option.getD_none] at hlt
    have hj : j ≠ i := fun heq =>
      hnone _ (List.mem_append_right _ (List.mem_singleton_self _)) heq.symm
    refine ht.recorded_ends j e (recorded_iff.2 ⟨?_, fun r hr => ?_⟩)
      ((hother j hj).symm.trans hend)
    · rw [taken, hqueued, Option.getD_some]
      omega
    · exact hnone r (List.mem_append_left _ hr)
  · rcases ht.clock_reached with hzero | ⟨j, e, hend, hle⟩
    · exact .inl hzero
    · have hj : j ≠ i := by
        rintro rfl
        exact hnew hend
      exact .inr ⟨j, e, (hother j hj).trans hend, hle⟩

theorem Timed.take {s : State ε α} {i w : Nat} {ws : List Nat} {task : Task ε α}
    (h : s.Accounted tasks workers) (ht : s.Timed tasks) (hqueued : s.queued = some i)
    (hidle : s.idle = w :: ws) (htask : tasks[i]? = some task) :
    ({ s with queued := none, idle := ws }.start w i task).Timed tasks := by
  have hbegin : ({ s with queued := none, idle := ws }.begin w i task).Timed tasks :=
    ht.begin h hqueued htask
  rw [start_eq (s := { s with queued := none, idle := ws }) (h.queued_fresh hqueued)]
  split
  · rename_i hzero
    refine hbegin.finish (h.begin hqueued hidle task) ?_ hbegin.clock_le
    simp [State.begin, hzero]
  · exact hbegin

theorem Timed.dispatch {s : State ε α} (ht : s.Timed tasks) (hqueued : s.queued = none) :
    { s with queued := some s.dispatched, dispatched := s.dispatched + 1 }.Timed tasks :=
  { ht with
    recorded_ends := fun i e hrecorded hend => by
      obtain ⟨hlt, hnone⟩ := recorded_iff.1 hrecorded
      have htaken : i < s.taken := by
        rw [taken, hqueued]
        exact hlt
      exact ht.recorded_ends i e (recorded_iff.2 ⟨htaken, hnone⟩) hend }

theorem Timed.cancel {s : State ε α} {c : Nat} (ht : s.Timed tasks) (hrunning : s.running ≠ [])
    (hlater : ∀ r ∈ s.running, s.clock < r.ends ∧ c < r.ends) :
    { s with clock := max s.clock c, stopped := true }.Timed tasks where
  start_le i start hstart := (ht.start_le i start hstart).trans (le_max_left _ _)
  running_ends := ht.running_ends
  clock_le r hr := max_le (hlater r hr).1.le (hlater r hr).2.le
  recorded_ends i e hrecorded hend := (ht.recorded_ends i e hrecorded hend).trans (le_max_left _ _)
  clock_reached := by
    obtain ⟨r, hr⟩ := List.exists_mem_of_ne_nil _ hrunning
    exact .inr ⟨r.input, r.ends, ht.running_ends r hr,
      max_le (hlater r hr).1.le (hlater r hr).2.le⟩

/-- Where no task crashes, some task is under way while no worker is idle. -/
theorem Accounted.running_ne_nil {s : State ε α} (h : s.Accounted tasks workers)
    (hresult : ∀ task ∈ tasks, task.ending.IsResult) (hworkers : 0 < workers)
    (hidle : s.idle = []) : s.running ≠ [] := by
  intro hrunning
  have hsum := h.workers_eq
  rw [hidle, hrunning, h.dead_eq_nil hresult] at hsum
  simp only [List.length_nil] at hsum
  omega

theorem Timed.step {s t : State ε α} (h : s.Accounted tasks workers) (ht : s.Timed tasks)
    (hresult : ∀ task ∈ tasks, task.ending.IsResult) (hworkers : 0 < workers)
    (hstep : s.step tasks cancelAt = some t) : t.Timed tasks := by
  cases move_of_step hstep with
  | take hqueued hidle htask => exact ht.take h hqueued hidle htask
  | finish hfirst _ => exact ht.finish h (mem_of_soonest hfirst) (ends_le_of_soonest hfirst)
  | dispatch hqueued => exact ht.dispatch hqueued
  | cancel _ _ hidle _ hlater =>
    exact ht.cancel (h.running_ne_nil hresult hworkers hidle) hlater

theorem Ends.timed {s u : State ε α} {starts : List Nat}
    (hends : Ends tasks cancelAt s starts u) (h : s.Accounted tasks workers) (ht : s.Timed tasks)
    (hresult : ∀ task ∈ tasks, task.ending.IsResult) (hworkers : 0 < workers) :
    u.Timed tasks := by
  induction hends with
  | done => exact ht
  | next hstep _ ih => exact ih (h.step hstep) (ht.step h hresult hworkers hstep)

/-- Once no task is under way the clock shows the latest end. -/
theorem Timed.clock_isGreatest {u : State ε α} (h : u.Accounted tasks workers)
    (ht : u.Timed tasks) (hrunning : u.running = []) (hsome : 0 < u.taken) :
    IsGreatest {e | ∃ i, endOf tasks u.started i = some e} u.clock := by
  have hle {i e : Nat} (hend : endOf tasks u.started i = some e) : e ≤ u.clock := by
    obtain ⟨start, _, hstart, _⟩ := endOf_eq_some.1 hend
    have hlt := (h.started_isSome i).1 (by rw [hstart]; rfl)
    exact ht.recorded_ends i e (by simp [recorded, hlt, hrunning]) hend
  refine ⟨?_, ?_⟩
  swap
  · rintro e ⟨i, hend⟩
    exact hle hend
  rcases ht.clock_reached with hzero | ⟨i, e, hend, hclock⟩
  · -- The clock has not moved, and the first task has ended at once.
    obtain ⟨start, hstart⟩ := Option.isSome_iff_exists.1 ((h.started_isSome 0).2 hsome)
    have htask : 0 < tasks.length :=
      hsome.trans_le (h.taken_le.trans h.dispatched_le)
    have hend : endOf tasks u.started 0 = some (start + tasks[0].duration) :=
      endOf_eq_some.2 ⟨start, tasks[0], hstart, List.getElem?_eq_getElem htask, rfl⟩
    have hnone := hle hend
    exact ⟨0, by rw [hend, show start + tasks[0].duration = u.clock by omega]⟩
  · exact ⟨i, by rw [hend, Nat.le_antisymm (hle hend) hclock]⟩

end State

end DashboardRefresh.Pool
