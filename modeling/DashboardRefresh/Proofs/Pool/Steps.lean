import DashboardRefresh.Pool.Job
import Mathlib.Data.List.Basic
import Mathlib.Order.Basic
import Mathlib.Order.Lattice
import Mathlib.Tactic.Push

/-!
# The steps of the pool

The pool goes on in four ways: a worker takes the queued input, a task ends, the dispatcher fills
the queue, or it is cancelled. `State.Move` lists them with all that holds when one of them is made,
and every step is one of them. A run to the end is described by `State.Ends`, which also keeps the
inputs that it starts.
-/

namespace DashboardRefresh.Pool

variable {ε α : Type} {tasks : List (Task ε α)} {cancelAt : Option Nat}

/-! ## The task that ends first -/

theorem soonest_eq_none {rs : List Running} : soonest rs = none ↔ rs = [] := by
  cases rs with
  | nil => simp [soonest]
  | cons r rs => cases h : soonest rs <;> simp [soonest, h]

theorem mem_of_soonest {rs : List Running} {r : Running} (h : soonest rs = some r) : r ∈ rs := by
  induction rs generalizing r with
  | nil => simp [soonest] at h
  | cons p rs ih =>
    cases hq : soonest rs with
    | none =>
      simp only [soonest, hq, Option.some.injEq] at h
      simp [h]
    | some q =>
      have hmem := ih hq
      simp only [soonest, hq, Option.some.injEq] at h
      split at h
      · simp [← h]
      · simp [← h, hmem]

theorem ends_le_of_soonest {rs : List Running} {r : Running} (h : soonest rs = some r) :
    ∀ q ∈ rs, r.ends ≤ q.ends := by
  induction rs generalizing r with
  | nil => simp
  | cons p rs ih =>
    intro q hq
    cases hs : soonest rs with
    | none =>
      obtain rfl := soonest_eq_none.1 hs
      simp only [soonest, Option.some.injEq] at h
      simp only [List.mem_singleton] at hq
      simp [← h, hq]
    | some first =>
      simp only [soonest, hs, Option.some.injEq] at h
      rcases List.mem_cons.1 hq with rfl | hq
      · split at h
        · exact h ▸ Nat.le_refl _
        · rename_i hlt
          exact h ▸ (Nat.lt_of_not_le hlt).le
      · have hfirst := ih hs q hq
        split at h
        · rename_i hle
          exact h ▸ hle.trans hfirst
        · exact h ▸ hfirst

namespace State

/-! ## What the parts of a step change -/

section Settle

variable (s : State ε α) (worker input : Nat) (ending : Ending ε α)

@[simp] theorem settle_clock : (s.settle worker input ending).clock = s.clock := by
  cases ending <;> rfl

@[simp] theorem settle_dispatched :
    (s.settle worker input ending).dispatched = s.dispatched := by
  cases ending <;> rfl

@[simp] theorem settle_queued : (s.settle worker input ending).queued = s.queued := by
  cases ending <;> rfl

@[simp] theorem settle_stopped : (s.settle worker input ending).stopped = s.stopped := by
  cases ending <;> rfl

@[simp] theorem settle_running : (s.settle worker input ending).running = s.running := by
  cases ending <;> rfl

@[simp] theorem settle_started : (s.settle worker input ending).started = s.started := by
  cases ending <;> rfl

end Settle

section Start

variable (s : State ε α) (worker input : Nat) (task : Task ε α)

@[simp] theorem start_clock : (s.start worker input task).clock = s.clock := by
  unfold start
  split <;> simp

@[simp] theorem start_dispatched : (s.start worker input task).dispatched = s.dispatched := by
  unfold start
  split <;> simp

@[simp] theorem start_queued : (s.start worker input task).queued = s.queued := by
  unfold start
  split <;> simp

@[simp] theorem start_stopped : (s.start worker input task).stopped = s.stopped := by
  unfold start
  split <;> simp

@[simp] theorem start_started :
    (s.start worker input task).started = s.started.set input (some s.clock) := by
  unfold start
  split <;> simp

end Start

section Finish

variable (s : State ε α) (r : Running) (task : Task ε α)

@[simp] theorem finish_clock : (s.finish r task).clock = max s.clock r.ends := by simp [finish]

@[simp] theorem finish_dispatched : (s.finish r task).dispatched = s.dispatched := by simp [finish]

@[simp] theorem finish_queued : (s.finish r task).queued = s.queued := by simp [finish]

@[simp] theorem finish_stopped : (s.finish r task).stopped = s.stopped := by simp [finish]

@[simp] theorem finish_running : (s.finish r task).running = s.running.erase r := by simp [finish]

@[simp] theorem finish_started : (s.finish r task).started = s.started := by simp [finish]

end Finish

/-- `worker` has begun on `input`, and the task is under way. -/
def begin (s : State ε α) (worker input : Nat) (task : Task ε α) : State ε α :=
  { s with
    started := s.started.set input (some s.clock)
    peak := max s.peak (s.running.length + 1)
    running := s.running ++ [⟨worker, input, s.clock + task.duration⟩] }

/-- A task that takes no time begins and ends at once. -/
theorem start_eq {s : State ε α} {worker input : Nat} {task : Task ε α}
    (h : ∀ r ∈ s.running, r.input ≠ input) :
    s.start worker input task =
      if task.duration = 0 then
        (s.begin worker input task).finish ⟨worker, input, s.clock⟩ task
      else s.begin worker input task := by
  unfold start
  dsimp only
  split
  · rename_i hzero
    have hnotMem : (⟨worker, input, s.clock⟩ : Running) ∉ s.running := fun hmem => h _ hmem rfl
    simp [finish, begin, hzero, List.erase_append_right _ hnotMem]
  · rfl

/-! ## The ways in which the pool goes on -/

/-- A step of the pool, with what holds when it is made. -/
inductive Move (tasks : List (Task ε α)) (cancelAt : Option Nat) (s : State ε α) :
    State ε α → Prop
  /-- The longest waiting worker takes the queued input. -/
  | take {i w : Nat} {ws : List Nat} {task : Task ε α} (queued : s.queued = some i)
      (idle : s.idle = w :: ws) (task_eq : tasks[i]? = some task) :
      Move tasks cancelAt s ({ s with queued := none, idle := ws }.start w i task)
  /-- The task that ends first is over. No worker could take an input, and unless the task was over
  before now the dispatcher could not fill the queue nor be cancelled. -/
  | finish {r : Running} {task : Task ε α} (first : soonest s.running = some r)
      (task_eq : tasks[r.input]? = some task) (blocked : s.queued = none ∨ s.idle = [])
      (full : s.queued = none → s.hasMore → r.ends ≤ s.clock)
      (uncancelled : ∀ c, cancelAt = some c → s.hasMore → r.ends ≤ max s.clock c) :
      Move tasks cancelAt s (s.finish r task)
  /-- The dispatcher puts the next input into the queue. -/
  | dispatch (queued : s.queued = none) (more : s.hasMore)
      (later : ∀ r ∈ s.running, s.clock < r.ends) :
      Move tasks cancelAt s
        { s with queued := some s.dispatched, dispatched := s.dispatched + 1 }
  /-- The dispatcher is cancelled while an input waits in the queue. -/
  | cancel {c i : Nat} (cancelAt_eq : cancelAt = some c) (queued : s.queued = some i)
      (idle : s.idle = []) (more : s.hasMore)
      (later : ∀ r ∈ s.running, s.clock < r.ends ∧ c < r.ends) :
      Move tasks cancelAt s { s with clock := max s.clock c, stopped := true }

theorem blocked_of_not_take {s : State ε α}
    (h : ∀ i w ws, s.queued = some i → s.idle = w :: ws → False) :
    s.queued = none ∨ s.idle = [] := by
  cases hq : s.queued with
  | none => exact .inl rfl
  | some i =>
    cases hi : s.idle with
    | nil => exact .inr rfl
    | cons w ws => exact (h i w ws hq hi).elim

/-- When time moves on, the first task ends or the dispatcher is cancelled. -/
theorem move_of_wait {s t : State ε α} (h : s.wait tasks cancelAt = some t)
    (hblocked : s.queued = none ∨ s.idle = []) (hfull : ¬(s.queued = none ∧ s.hasMore))
    (hlater : ∀ r ∈ s.running, s.clock < r.ends) : s.Move tasks cancelAt t := by
  have hfinish (hcancel : ∀ c, cancelAt = some c → s.hasMore → ∃ r ∈ s.running, r.ends ≤ c)
      (h : (do
        let r ← soonest s.running
        let task ← tasks[r.input]?
        return s.finish r task) = some t) : s.Move tasks cancelAt t := by
    simp only [Option.bind_eq_bind, Option.bind_eq_some_iff, Option.pure_def,
      Option.some.injEq] at h
    obtain ⟨r, hfirst, task, htask, rfl⟩ := h
    refine .finish hfirst htask hblocked (fun hq hm => absurd ⟨hq, hm⟩ hfull) fun c hc hm => ?_
    obtain ⟨q, hq, hle⟩ := hcancel c hc hm
    exact (ends_le_of_soonest hfirst q hq).trans (hle.trans (le_max_right _ _))
  unfold wait at h
  dsimp only at h
  split at h
  · exact hfinish (by simp) h
  · rename_i c
    split at h
    · rename_i hcond
      have hidle : s.idle = [] := hblocked.resolve_left fun hq => hfull ⟨hq, hcond.1⟩
      obtain ⟨i, hi⟩ := Option.ne_none_iff_exists'.1 fun hq => hfull ⟨hq, hcond.1⟩
      rw [← Option.some.inj h]
      exact .cancel rfl hi hidle hcond.1 fun r hr => ⟨hlater r hr, hcond.2 r hr⟩
    · rename_i hcond
      refine hfinish (fun c' hc' hm => ?_) h
      obtain rfl := Option.some.inj hc'
      by_contra hnone
      push Not at hnone
      exact hcond ⟨hm, hnone⟩

/-- Every step is one of the four moves. -/
theorem move_of_step {s t : State ε α} (h : s.step tasks cancelAt = some t) :
    s.Move tasks cancelAt t := by
  unfold step at h
  split at h
  · rename_i i w ws hqueued hidle
    simp only [Option.bind_eq_bind, Option.bind_eq_some_iff, Option.pure_def,
      Option.some.injEq] at h
    obtain ⟨task, htask, rfl⟩ := h
    exact .take hqueued hidle htask
  · rename_i hnotBoth
    have hblocked := blocked_of_not_take hnotBoth
    split at h
    · rename_i r hr
      obtain ⟨hfirst, hends⟩ := Option.filter_eq_some_iff.1 hr
      have hends : r.ends ≤ s.clock := by simpa using hends
      simp only [Option.bind_eq_bind, Option.bind_eq_some_iff, Option.pure_def,
        Option.some.injEq] at h
      obtain ⟨task, htask, rfl⟩ := h
      exact .finish hfirst htask hblocked (fun _ _ => hends)
        fun c _ _ => hends.trans (le_max_left _ _)
    · rename_i hnone
      have hlater : ∀ r ∈ s.running, s.clock < r.ends := by
        intro r hr
        cases hfirst : soonest s.running with
        | none => simp [soonest_eq_none.1 hfirst] at hr
        | some q =>
          have hq : s.clock < q.ends := by simpa [hfirst] using hnone
          exact hq.trans_le (ends_le_of_soonest hfirst r hr)
      split at h
      · rename_i hcond
        rw [← Option.some.inj h]
        exact .dispatch hcond.1 hcond.2 hlater
      · rename_i hfull
        exact move_of_wait h hblocked hfull hlater

/-- Time can move on while a task is under way. -/
theorem running_eq_nil_of_wait {s : State ε α} (h : s.wait tasks cancelAt = none)
    (hrunning : ∀ r ∈ s.running, r.input < tasks.length) : s.running = [] := by
  by_contra hne
  obtain ⟨r, hfirst⟩ := Option.ne_none_iff_exists'.1 (mt soonest_eq_none.1 hne)
  have hinput := hrunning r (mem_of_soonest hfirst)
  unfold wait at h
  dsimp only at h
  split at h
  · simp [hfirst, hinput] at h
  · split at h
    · simp at h
    · simp [hfirst, hinput] at h

/-- A pool whose inputs all exist goes no further only if no task is under way, no worker can take
an input, and nothing can be put into the queue. -/
theorem blocked_of_step_eq_none {s : State ε α} (h : s.step tasks cancelAt = none)
    (hqueued : ∀ i, s.queued = some i → i < tasks.length)
    (hrunning : ∀ r ∈ s.running, r.input < tasks.length) :
    s.running = [] ∧ (s.queued = none ∨ s.idle = []) ∧ (s.queued = none → ¬s.hasMore) := by
  unfold step at h
  split at h
  · rename_i i w ws hq _
    simp [hqueued i hq] at h
  · rename_i hnotBoth
    split at h
    · rename_i r hr
      have hinput := hrunning r (mem_of_soonest (Option.filter_eq_some_iff.1 hr).1)
      simp [hinput] at h
    · split at h
      · simp at h
      · rename_i hfull
        exact ⟨running_eq_nil_of_wait h hrunning, blocked_of_not_take hnotBoth,
          fun hq hm => hfull ⟨hq, hm⟩⟩

/-! ## Runs to the end -/

/-- The input that the next step starts, if it starts one. -/
def starting (s : State ε α) : List Nat :=
  match s.queued, s.idle with
  | some i, _ :: _ => [i]
  | _, _ => []

/-- The pool goes on from a state until it comes to its end in another one, and starts some inputs
on the way, in this order. -/
inductive Ends (tasks : List (Task ε α)) (cancelAt : Option Nat) :
    State ε α → List Nat → State ε α → Prop
  | done {s : State ε α} (halted : s.step tasks cancelAt = none) : Ends tasks cancelAt s [] s
  | next {s t u : State ε α} {starts : List Nat} (step : s.step tasks cancelAt = some t)
      (rest : Ends tasks cancelAt t starts u) : Ends tasks cancelAt s (s.starting ++ starts) u

end State

end DashboardRefresh.Pool
