import DashboardRefresh.Proofs.Pool.Slots
import DashboardRefresh.Proofs.Pool.Steps
import Mathlib.Data.List.Nodup

/-!
# Where each input is

At every moment an input is in exactly one of four places: it has not been dispatched, it is in the
queue, its task is under way, or its task is recorded. `State.Accounted` says so by way of numbers:
inputs are dispatched and taken in order, so the first two places are those from `taken` on, and the
batch holds the results of exactly the inputs below `taken` that are not under way. Every step keeps
this, and a run that keeps it comes to its end within `State.remaining` steps.
-/

namespace DashboardRefresh.Pool.State

variable {ε α : Type} {tasks : List (Task ε α)} {cancelAt : Option Nat} {workers : Nat}

/-- How many inputs the workers have taken: all that were dispatched but the one in the queue. -/
def taken (s : State ε α) : Nat := s.queued.getD s.dispatched

/-- Whether the task of an input is over. -/
def recorded (s : State ε α) (i : Nat) : Bool :=
  decide (i < s.taken) && !s.running.any (·.input == i)

theorem recorded_iff {s : State ε α} {i : Nat} :
    s.recorded i ↔ i < s.taken ∧ ∀ r ∈ s.running, r.input ≠ i := by
  simp [recorded]

/-- Each input is in its place, and so is each worker. -/
structure Accounted (tasks : List (Task ε α)) (workers : Nat) (s : State ε α) : Prop where
  dispatched_le : s.dispatched ≤ tasks.length
  queued_succ : ∀ i, s.queued = some i → i + 1 = s.dispatched
  started_length : s.started.length = tasks.length
  started_isSome : ∀ i, s.started[i]?.join.isSome ↔ i < s.taken
  running_lt : ∀ r ∈ s.running, r.input < s.taken
  running_nodup : (s.running.map Running.input).Nodup
  batch_eq : s.batch = Batch.ofRecorded tasks s.recorded
  workers_eq : s.idle.length + s.running.length + s.dead.length = workers
  dead_crashed : ∀ d ∈ s.dead, ∃ task ∈ tasks, task.ending = .crash d.2

theorem Accounted.taken_le {s : State ε α} (h : s.Accounted tasks workers) :
    s.taken ≤ s.dispatched := by
  unfold taken
  cases hq : s.queued with
  | none => exact Nat.le_refl _
  | some i => exact Nat.le_of_succ_le (h.queued_succ i hq).le

theorem Accounted.running_input_lt {s : State ε α} (h : s.Accounted tasks workers) :
    ∀ r ∈ s.running, r.input < tasks.length := by
  intro r hr
  have hlt := h.running_lt r hr
  have hle := h.taken_le
  have hn := h.dispatched_le
  omega

theorem Accounted.queued_lt {s : State ε α} (h : s.Accounted tasks workers) :
    ∀ i, s.queued = some i → i < tasks.length := by
  intro i hi
  have hsucc := h.queued_succ i hi
  have hn := h.dispatched_le
  omega

/-- The task of the queued input is not under way yet. -/
theorem Accounted.queued_fresh {s : State ε α} {i : Nat} (h : s.Accounted tasks workers)
    (hqueued : s.queued = some i) : ∀ r ∈ s.running, r.input ≠ i := by
  intro r hr
  have hlt := h.running_lt r hr
  simp only [taken, hqueued, Option.getD_some] at hlt
  omega

theorem initial_accounted : (initial tasks.length workers : State ε α).Accounted tasks workers where
  dispatched_le := Nat.zero_le _
  queued_succ := by simp [initial]
  started_length := by simp [initial]
  started_isSome i := by
    have hnone : (List.replicate tasks.length (none : Option Nat))[i]?.join = none := by
      rw [List.getElem?_replicate]
      split <;> rfl
    simp [initial, taken, hnone]
  running_lt := by simp [initial]
  running_nodup := by simp [initial]
  batch_eq := by
    rw [Batch.ofRecorded_congr (fun _ => false) (by simp [recorded, taken, initial]),
      Batch.ofRecorded_false]
    rfl
  workers_eq := by simp [initial]
  dead_crashed := by simp [initial]

/-! ## A task ends -/

section Settle

variable (s : State ε α) (worker input : Nat) (ending : Ending ε α)

theorem settle_batch : (s.settle worker input ending).batch = s.batch.record input ending := by
  cases ending <;> rfl

theorem settle_workers :
    (s.settle worker input ending).idle.length + (s.settle worker input ending).dead.length =
      s.idle.length + s.dead.length + 1 := by
  cases ending <;> simp [settle] <;> omega

theorem mem_settle_dead {d : Nat × String} (h : d ∈ (s.settle worker input ending).dead) :
    d ∈ s.dead ∨ ending = .crash d.2 := by
  cases ending with
  | value a => exact .inl h
  | error e => exact .inl h
  | crash message =>
    simp only [settle, List.mem_append, List.mem_singleton] at h
    rcases h with h | rfl
    · exact .inl h
    · exact .inr rfl

end Settle

theorem mem_erase_running {rs : List Running} {r q : Running}
    (h : (rs.map Running.input).Nodup) (hr : r ∈ rs) :
    q ∈ rs.erase r ↔ q ∈ rs ∧ q.input ≠ r.input := by
  rw [h.of_map.mem_erase_iff]
  constructor
  · rintro ⟨hne, hq⟩
    exact ⟨hq, fun heq => hne (List.inj_on_of_nodup_map h hq hr heq)⟩
  · rintro ⟨hq, hne⟩
    exact ⟨fun heq => hne (heq ▸ rfl), hq⟩

/-- A task that ends is recorded from then on, and nothing else is. -/
theorem recorded_finish {s : State ε α} {r : Running} {task : Task ε α}
    (h : s.Accounted tasks workers) (hr : r ∈ s.running) :
    (s.finish r task).recorded = fun j => j == r.input || s.recorded j := by
  funext j
  have htaken : (s.finish r task).taken = s.taken := by simp [taken]
  have hlt := h.running_lt r hr
  rw [Bool.eq_iff_iff, Bool.or_eq_true, beq_iff_eq, recorded_iff, recorded_iff, htaken,
    finish_running]
  simp only [mem_erase_running h.running_nodup hr]
  constructor
  · rintro ⟨hj, hnone⟩
    by_cases heq : j = r.input
    · exact .inl heq
    · exact .inr ⟨hj, fun q hq hqj => hnone q ⟨hq, hqj ▸ heq⟩ hqj⟩
  · rintro (rfl | ⟨hj, hnone⟩)
    · exact ⟨hlt, fun q hq => hq.2⟩
    · exact ⟨hj, fun q hq => hnone q hq.1⟩

theorem Accounted.finish {s : State ε α} {r : Running} {task : Task ε α}
    (h : s.Accounted tasks workers) (hr : r ∈ s.running) (htask : tasks[r.input]? = some task) :
    (s.finish r task).Accounted tasks workers where
  dispatched_le := by simpa using h.dispatched_le
  queued_succ := by simpa using h.queued_succ
  started_length := by simpa using h.started_length
  started_isSome := by simpa [taken] using h.started_isSome
  running_lt q hq := by
    have hq : q ∈ s.running.erase r := by simpa using hq
    simpa [taken] using h.running_lt q (List.mem_of_mem_erase hq)
  running_nodup := by
    simpa using h.running_nodup.sublist ((List.erase_sublist).map _)
  batch_eq := by
    rw [recorded_finish h hr, ← Batch.record_ofRecorded htask, ← h.batch_eq]
    exact settle_batch _ _ _ _
  workers_eq := by
    have hworkers := h.workers_eq
    have hsettle := settle_workers
      { s with clock := max s.clock r.ends, running := s.running.erase r } r.worker r.input
      task.ending
    have hlength := List.length_erase_add_one hr
    rw [finish_running]
    unfold State.finish
    dsimp only at hsettle
    omega
  dead_crashed d hd := by
    rcases mem_settle_dead _ _ _ _ hd with hd | hcrash
    · exact h.dead_crashed d hd
    · exact ⟨task, List.mem_of_getElem? htask, hcrash⟩

/-! ## A worker takes an input -/

theorem Accounted.begin {s : State ε α} {i w : Nat} {ws : List Nat}
    (h : s.Accounted tasks workers) (hqueued : s.queued = some i) (hidle : s.idle = w :: ws)
    (task : Task ε α) :
    ({ s with queued := none, idle := ws }.begin w i task).Accounted tasks workers := by
  have hsucc := h.queued_succ i hqueued
  have htaken : s.taken = i := by simp [taken, hqueued]
  have hinput := h.queued_lt i hqueued
  refine
    { dispatched_le := h.dispatched_le
      queued_succ := by simp [State.begin]
      started_length := by simpa [State.begin] using h.started_length
      started_isSome := fun j => ?_
      running_lt := fun q hq => ?_
      running_nodup := ?_
      batch_eq := ?_
      workers_eq := ?_
      dead_crashed := h.dead_crashed }
  · have hstarted := h.started_isSome j
    simp only [State.begin, taken, Option.getD_none, List.getElem?_set, h.started_length]
    rw [htaken] at hstarted
    by_cases hj : i = j
    · subst hj
      simp [hinput]
      omega
    · rw [if_neg hj, hstarted]
      omega
  · simp only [State.begin, List.mem_append, List.mem_singleton] at hq
    simp only [State.begin, taken, Option.getD_none]
    rcases hq with hq | rfl
    · have hlt := h.running_lt q hq
      omega
    · show i < s.dispatched
      omega
  · simp only [State.begin, List.map_append, List.map_cons, List.map_nil]
    refine List.nodup_append.2 ⟨h.running_nodup, List.nodup_singleton _, ?_⟩
    intro a ha b hb
    obtain ⟨q, hq, rfl⟩ := List.mem_map.1 ha
    have hlt := h.running_lt q hq
    rw [List.mem_singleton.1 hb]
    omega
  · refine h.batch_eq.trans (Batch.ofRecorded_congr _ fun j _ => ?_)
    simp only [recorded, State.begin, taken, Option.getD_none, List.any_append, List.any_cons,
      List.any_nil, Bool.or_false, hqueued, Option.getD_some]
    by_cases hj : i = j
    · subst hj
      simp
    · have hiff : j < s.dispatched ↔ j < i := by omega
      simp [beq_eq_false_iff_ne.2 hj, hiff]
  · have hworkers := h.workers_eq
    simp only [hidle, List.length_cons] at hworkers
    simp only [State.begin, List.length_append, List.length_singleton]
    omega

theorem Accounted.take {s : State ε α} {i w : Nat} {ws : List Nat} {task : Task ε α}
    (h : s.Accounted tasks workers) (hqueued : s.queued = some i) (hidle : s.idle = w :: ws)
    (htask : tasks[i]? = some task) :
    ({ s with queued := none, idle := ws }.start w i task).Accounted tasks workers := by
  have hbegin := h.begin hqueued hidle task
  rw [start_eq (s := { s with queued := none, idle := ws }) (h.queued_fresh hqueued)]
  split
  · rename_i hzero
    refine hbegin.finish ?_ htask
    simp [State.begin, hzero]
  · exact hbegin

/-! ## The dispatcher -/

theorem Accounted.dispatch {s : State ε α} (h : s.Accounted tasks workers)
    (hqueued : s.queued = none) (hmore : s.hasMore) :
    { s with queued := some s.dispatched, dispatched := s.dispatched + 1 }.Accounted
      tasks workers := by
  have hlt : s.dispatched < s.started.length := by
    simp only [hasMore, Bool.and_eq_true, decide_eq_true_eq] at hmore
    exact hmore.2
  have htaken : s.taken = s.dispatched := by simp [taken, hqueued]
  exact
    { dispatched_le := h.started_length ▸ hlt
      queued_succ := by simp
      started_length := h.started_length
      started_isSome := fun i => by simpa [taken, htaken] using htaken ▸ h.started_isSome i
      running_lt := fun r hr => by simpa [taken] using htaken ▸ h.running_lt r hr
      running_nodup := h.running_nodup
      batch_eq := h.batch_eq.trans (Batch.ofRecorded_congr _ fun i _ => by
        unfold recorded
        rw [htaken]
        rfl)
      workers_eq := h.workers_eq
      dead_crashed := h.dead_crashed }

theorem Accounted.cancel {s : State ε α} (h : s.Accounted tasks workers) (c : Nat) :
    { s with clock := max s.clock c, stopped := true }.Accounted tasks workers :=
  { h with }

/-! ## Every step -/

theorem Accounted.step {s t : State ε α} (h : s.Accounted tasks workers)
    (hstep : s.step tasks cancelAt = some t) : t.Accounted tasks workers := by
  cases move_of_step hstep with
  | take hqueued hidle htask => exact h.take hqueued hidle htask
  | finish hfirst htask => exact h.finish (mem_of_soonest hfirst) htask
  | dispatch hqueued hmore => exact h.dispatch hqueued hmore
  | cancel => exact h.cancel _

theorem Ends.accounted {s u : State ε α} {starts : List Nat}
    (hends : Ends tasks cancelAt s starts u) (h : s.Accounted tasks workers) :
    u.Accounted tasks workers := by
  induction hends with
  | done => exact h
  | next hstep _ ih => exact ih (h.step hstep)

end DashboardRefresh.Pool.State
