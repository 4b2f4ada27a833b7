import DashboardRefresh.Proofs.Pool.Accounting

/-!
# The pool comes to its end

Every step uses up some of `State.remaining`, which is the bound on the number of steps that a run
is given. So a run of the pool is a run to its end, and it starts the inputs in their order. Where
no task crashes, the pool ends with every dispatched input recorded and every worker idle.
-/

namespace DashboardRefresh

variable {ε α : Type}

/-- The ending is a value or an error. -/
def Ending.IsResult : Ending ε α → Prop
  | .crash _ => False
  | _ => True

instance (ending : Ending ε α) : Decidable ending.IsResult :=
  match ending with
  | .value _ => isTrue trivial
  | .error _ => isTrue trivial
  | .crash _ => isFalse id

namespace Pool.State

variable {tasks : List (Task ε α)} {cancelAt : Option Nat} {workers : Nat}

/-! ## The number of steps -/

/-- A bound on the number of steps to come. -/
def remaining (s : State ε α) : Nat :=
  3 * (s.started.length - s.dispatched) + 2 * s.queued.toList.length + s.running.length +
    (!s.stopped).toNat

theorem remaining_initial (n : Nat) :
    (initial n workers : State ε α).remaining = stepBound n := by
  simp [remaining, initial, stepBound]

theorem remaining_finish {s : State ε α} {r : Running} (hr : r ∈ s.running) (task : Task ε α) :
    (s.finish r task).remaining + 1 = s.remaining := by
  have hlength := List.length_erase_add_one hr
  simp only [remaining, finish_started, finish_dispatched, finish_queued, finish_running,
    finish_stopped]
  omega

theorem remaining_take {s : State ε α} {i w : Nat} {ws : List Nat} {task : Task ε α}
    (hqueued : s.queued = some i) (hfresh : ∀ r ∈ s.running, r.input ≠ i) :
    ({ s with queued := none, idle := ws }.start w i task).remaining < s.remaining := by
  have hbegin : ({ s with queued := none, idle := ws }.begin w i task).remaining + 1 =
      s.remaining := by
    simp [remaining, begin, hqueued]
    omega
  rw [start_eq (s := { s with queued := none, idle := ws }) hfresh]
  split
  · rename_i hzero
    have hmem : (⟨w, i, s.clock⟩ : Running) ∈
        ({ s with queued := none, idle := ws }.begin w i task).running := by
      simp [begin, hzero]
    have hfinish := remaining_finish hmem task
    dsimp only at hfinish ⊢
    omega
  · omega

theorem remaining_lt_of_step {s t : State ε α} (h : s.Accounted tasks workers)
    (hstep : s.step tasks cancelAt = some t) : t.remaining < s.remaining := by
  cases move_of_step hstep with
  | take hqueued _ _ => exact remaining_take hqueued (h.queued_fresh hqueued)
  | finish hfirst _ =>
    exact Nat.lt_of_succ_le (remaining_finish (mem_of_soonest hfirst) _).le
  | dispatch hqueued hmore =>
    simp only [hasMore, Bool.and_eq_true, decide_eq_true_eq] at hmore
    simp only [remaining, hqueued, Option.toList_none, Option.toList_some, List.length_nil,
      List.length_singleton]
    omega
  | cancel _ _ _ hmore =>
    simp only [hasMore, Bool.and_eq_true, Bool.not_eq_true'] at hmore
    simp [remaining, hmore.1]

/-- With enough steps a run comes to its end. -/
theorem ends_run (fuel : Nat) {s : State ε α} (h : s.Accounted tasks workers)
    (hfuel : s.remaining ≤ fuel) :
    ∃ starts, Ends tasks cancelAt s starts (s.run tasks cancelAt fuel) := by
  induction fuel generalizing s with
  | zero =>
    cases hstep : s.step tasks cancelAt with
    | none => exact ⟨[], .done hstep⟩
    | some t =>
      have hlt := remaining_lt_of_step h hstep
      omega
  | succ fuel ih =>
    unfold run
    cases hstep : s.step tasks cancelAt with
    | none => exact ⟨[], .done hstep⟩
    | some t =>
      have hlt := remaining_lt_of_step h hstep
      obtain ⟨starts, hends⟩ := ih (h.step hstep) (by omega)
      exact ⟨s.starting ++ starts, .next hstep hends⟩

/-! ## The inputs that are started -/

/-- A step starts the next input or none. -/
theorem starting_of_step {s t : State ε α} (h : s.Accounted tasks workers)
    (hstep : s.step tasks cancelAt = some t) :
    s.taken ≤ t.taken ∧ s.starting = List.range' s.taken (t.taken - s.taken) := by
  cases move_of_step hstep with
  | take hqueued hidle _ =>
    have hsucc := h.queued_succ _ hqueued
    simp [starting, taken, hqueued, hidle, ← hsucc]
  | finish _ _ hblocked =>
    have hstarting : s.starting = [] := by
      rcases hblocked with hqueued | hidle
      · simp [starting, hqueued]
      · unfold starting
        rw [hidle]
        cases s.queued <;> rfl
    simp [hstarting, taken]
  | dispatch hqueued _ => simp [starting, taken, hqueued]
  | cancel _ _ hidle => simp [starting, taken, hidle]

theorem Ends.taken_le {s u : State ε α} {starts : List Nat}
    (hends : Ends tasks cancelAt s starts u) (h : s.Accounted tasks workers) :
    s.taken ≤ u.taken := by
  induction hends with
  | done => exact Nat.le_refl _
  | next hstep _ ih => exact (starting_of_step h hstep).1.trans (ih (h.step hstep))

/-- A run starts the inputs in their order, each once. -/
theorem Ends.starts_eq {s u : State ε α} {starts : List Nat}
    (hends : Ends tasks cancelAt s starts u) (h : s.Accounted tasks workers) :
    starts = List.range' s.taken (u.taken - s.taken) := by
  induction hends with
  | done => simp
  | @next s t u starts hstep hrest ih =>
    obtain ⟨hfirst, hstarting⟩ := starting_of_step h hstep
    have hrest := hrest.taken_le (h.step hstep)
    obtain ⟨a, ha⟩ := Nat.exists_eq_add_of_le hfirst
    obtain ⟨b, hb⟩ := Nat.exists_eq_add_of_le hrest
    rw [hstarting, ih (h.step hstep), hb, ha, Nat.add_sub_cancel_left, Nat.add_sub_cancel_left,
      Nat.add_assoc, Nat.add_sub_cancel_left, List.range'_append_1]

theorem Ends.halted {s u : State ε α} {starts : List Nat}
    (hends : Ends tasks cancelAt s starts u) : u.step tasks cancelAt = none := by
  induction hends with
  | done hhalted => exact hhalted
  | next _ _ ih => exact ih

/-! ## The end where no task crashes -/

theorem Accounted.dead_eq_nil {s : State ε α} (h : s.Accounted tasks workers)
    (hresult : ∀ task ∈ tasks, task.ending.IsResult) : s.dead = [] := by
  apply List.eq_nil_iff_forall_not_mem.2
  intro d hd
  obtain ⟨task, htask, hcrash⟩ := h.dead_crashed d hd
  have hending := hresult task htask
  rw [hcrash] at hending
  exact hending

/-- At the end no task is under way, the queue is empty and nothing is left to hand over. -/
theorem Accounted.finished {u : State ε α} (h : u.Accounted tasks workers)
    (hhalted : u.step tasks cancelAt = none) (hresult : ∀ task ∈ tasks, task.ending.IsResult)
    (hworkers : tasks ≠ [] → 0 < workers) :
    u.running = [] ∧ u.queued = none ∧ u.hasMore = false := by
  obtain ⟨hrunning, hblocked, hfull⟩ :=
    blocked_of_step_eq_none hhalted h.queued_lt h.running_input_lt
  have hqueued : u.queued = none := by
    rcases hblocked with hqueued | hidle
    · exact hqueued
    · -- Without an idle worker there is none at all, and so no input.
      have hzero := h.workers_eq
      rw [hidle, hrunning, h.dead_eq_nil hresult] at hzero
      have hempty : tasks = [] := by
        by_contra hne
        have hpos := hworkers hne
        simp only [List.length_nil] at hzero
        omega
      by_contra hne
      obtain ⟨i, hi⟩ := Option.ne_none_iff_exists'.1 hne
      have hlt := h.queued_lt i hi
      simp [hempty] at hlt
  exact ⟨hrunning, hqueued, by simpa using hfull hqueued⟩

end Pool.State

end DashboardRefresh
