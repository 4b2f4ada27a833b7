import DashboardRefresh.Proofs.Fetch.Attempts
import DashboardRefresh.Proofs.Pool.GreedySchedule
import Mathlib.Data.List.Induction
import Mathlib.Data.List.Sort

/-!
# First come, first served

The reference schedule hands each task, in the order of the tasks, to the worker that is free first,
and keeps of the workers only when they are free. A greedy schedule takes as long as this one: the
tasks that are under way at an instant are as many as the workers that are free only later. Tasks
that take no time have no part in the length, tasks for which there are workers enough take as long
as the longest of them, and tasks of one duration take a turn for each crew that they fill or begin.
-/

namespace DashboardRefresh

/-! ## The reference schedule -/

namespace Pool

/-- When the workers are free, in ascending order, once the first to be free has taken one more
task. -/
def handOver : List Nat → Nat → List Nat
  | [], _ => []
  | free :: others, duration => others.orderedInsert (· ≤ ·) (free + duration)

/-- When the workers are free once tasks of some durations have been handed over in order. -/
def freeTimes (workers : Nat) (durations : List Nat) : List Nat :=
  durations.foldl handOver (List.replicate workers 0)

/-- How long tasks of some durations take in the order in which they come. -/
def servedLength (workers : Nat) (durations : List Nat) : Nat :=
  (freeTimes workers durations).foldl max 0

theorem foldl_max_le_iff {times : List Nat} {first bound : Nat} :
    times.foldl max first ≤ bound ↔ first ≤ bound ∧ ∀ time ∈ times, time ≤ bound := by
  induction times generalizing first with
  | nil => simp
  | cons time times ih => rw [List.foldl_cons, ih, List.forall_mem_cons, Nat.max_le, and_assoc]

theorem servedLength_le_iff {workers bound : Nat} {durations : List Nat} :
    servedLength workers durations ≤ bound ↔
      ∀ free ∈ freeTimes workers durations, free ≤ bound := by
  rw [servedLength, foldl_max_le_iff, and_iff_right (Nat.zero_le bound)]

section HandOver

variable {times : List Nat} {duration : Nat}

theorem length_handOver : (handOver times duration).length = times.length := by
  cases times with
  | nil => rfl
  | cons free others => exact List.orderedInsert_length _ others (free + duration)

theorem pairwise_handOver (h : times.Pairwise (· ≤ ·)) :
    (handOver times duration).Pairwise (· ≤ ·) := by
  cases times with
  | nil => exact .nil
  | cons free others => exact (List.pairwise_cons.1 h).2.orderedInsert _ _

/-- The worker that is free first is the one that takes the task. -/
theorem handOver_perm {free : Nat} {others : List Nat} (hsorted : times.Pairwise (· ≤ ·))
    (hperm : times.Perm (free :: others)) (hfirst : ∀ time ∈ others, free ≤ time) :
    (handOver times duration).Perm ((free + duration) :: others) := by
  cases times with
  | nil => exact absurd hperm.length_eq (by simp)
  | cons first rest =>
    obtain ⟨hle, _⟩ := List.pairwise_cons.1 hsorted
    obtain rfl : first = free := by
      apply le_antisymm
      · rcases List.mem_cons.1 (hperm.mem_iff.2 List.mem_cons_self) with rfl | hmem
        · exact le_rfl
        · exact hle free hmem
      · rcases List.mem_cons.1 (hperm.mem_iff.1 List.mem_cons_self) with rfl | hmem
        · exact le_rfl
        · exact hfirst first hmem
    exact (List.perm_orderedInsert _ _ rest).trans (hperm.cons_inv.cons _)

/-- A task that takes no time leaves its worker as free as it was. -/
theorem handOver_zero (h : times.Pairwise (· ≤ ·)) : handOver times 0 = times := by
  cases times with
  | nil => rfl
  | cons free others =>
    cases others with
    | nil => rfl
    | cons next others =>
      have hle : free ≤ next := (List.pairwise_cons.1 h).1 next List.mem_cons_self
      exact List.orderedInsert_cons_of_le _ others hle

end HandOver

section FreeTimes

variable {workers duration : Nat} {durations : List Nat}

theorem freeTimes_concat :
    freeTimes workers (durations ++ [duration]) = handOver (freeTimes workers durations) duration :=
  List.foldl_concat ..

theorem length_freeTimes : (freeTimes workers durations).length = workers := by
  induction durations using List.reverseRecOn with
  | nil => exact List.length_replicate
  | append_singleton durations duration ih => rw [freeTimes_concat, length_handOver, ih]

theorem pairwise_freeTimes : (freeTimes workers durations).Pairwise (· ≤ ·) := by
  induction durations using List.reverseRecOn with
  | nil => exact List.pairwise_replicate.2 (.inr le_rfl)
  | append_singleton durations duration ih =>
    rw [freeTimes_concat]
    exact pairwise_handOver ih

/-- Tasks that take no time have no part in the schedule. -/
theorem freeTimes_filter : freeTimes workers (durations.filter (· ≠ 0)) =
    freeTimes workers durations := by
  induction durations using List.reverseRecOn with
  | nil => rfl
  | append_singleton durations duration ih =>
    rw [List.filter_append, freeTimes_concat, ← ih]
    rcases eq_or_ne duration 0 with rfl | hne
    · rw [handOver_zero pairwise_freeTimes]
      simp
    · simp [hne, freeTimes_concat]

/-- Where some tasks take time and the others none, the others have no part in the length. -/
theorem servedLength_map_ite {α : Type} (xs : List α) (p : α → Bool) (duration : α → Nat) :
    servedLength workers (xs.map fun x => if p x then duration x else 0) =
      servedLength workers ((xs.filter p).map duration) := by
  have hsame : (xs.map fun x => if p x then duration x else 0).filter (· ≠ 0) =
      ((xs.filter p).map duration).filter (· ≠ 0) := by
    induction xs with
    | nil => rfl
    | cons x xs ih =>
      rw [List.map_cons, List.filter_cons, ih, List.filter_cons]
      cases p x <;> simp [List.filter_cons]
  rw [servedLength, ← freeTimes_filter, hsame, freeTimes_filter, servedLength]

theorem freeTimes_perm (hle : durations.length ≤ workers) : (freeTimes workers durations).Perm
    (durations ++ List.replicate (workers - durations.length) 0) := by
  induction durations using List.reverseRecOn with
  | nil => exact List.Perm.refl _
  | append_singleton durations duration ih =>
    rw [List.length_append, List.length_singleton] at hle ⊢
    have hidle : List.replicate (workers - durations.length) 0 =
        0 :: List.replicate (workers - (durations.length + 1)) 0 := by
      rw [← List.replicate_succ]
      congr 1
      omega
    have hperm := ih (by omega)
    rw [hidle] at hperm
    have hnext : (handOver (freeTimes workers durations) duration).Perm ((0 + duration) :: _) :=
      handOver_perm pairwise_freeTimes (hperm.trans List.perm_middle) fun _ _ => Nat.zero_le _
    rw [Nat.zero_add] at hnext
    rw [freeTimes_concat, List.append_assoc]
    exact hnext.trans List.perm_middle.symm

/-- Where there are workers enough, tasks take as long as the longest of them. -/
theorem servedLength_of_length_le (hle : durations.length ≤ workers) :
    servedLength workers durations = durations.foldl max 0 := by
  apply eq_of_forall_ge_iff
  intro bound
  rw [servedLength_le_iff, foldl_max_le_iff, and_iff_right (Nat.zero_le bound)]
  simp only [(freeTimes_perm hle).mem_iff, List.mem_append, List.mem_replicate]
  constructor
  · exact fun h duration hmem => h duration (.inl hmem)
  · rintro h time (hmem | ⟨_, rfl⟩)
    · exact h time hmem
    · exact Nat.zero_le _

/-- Workers that are all free at once and take some more equal tasks, no worker two of them. -/
theorem freeTimes_perm_of_turn {count start : Nat} (hturn : (freeTimes workers
      (List.replicate count duration)).Perm (List.replicate workers start)) {more : Nat}
    (hle : more ≤ workers) :
    (freeTimes workers (List.replicate (count + more) duration)).Perm
      (List.replicate (workers - more) start ++ List.replicate more (start + duration)) := by
  induction more with
  | zero => simpa using hturn
  | succ more ih =>
    have hidle : List.replicate (workers - more) start =
        start :: List.replicate (workers - (more + 1)) start := by
      rw [← List.replicate_succ]
      congr 1
      omega
    have hperm := ih (by omega)
    rw [hidle] at hperm
    have hfirst : ∀ time ∈ List.replicate (workers - (more + 1)) start ++
        List.replicate more (start + duration), start ≤ time := by
      simp only [List.mem_append, List.mem_replicate]
      omega
    rw [← Nat.add_assoc, List.replicate_succ', freeTimes_concat, List.replicate_succ]
    exact (handOver_perm pairwise_freeTimes hperm hfirst).trans List.perm_middle.symm

theorem freeTimes_replicate_perm (turns : Nat) :
    (freeTimes workers (List.replicate (turns * workers) duration)).Perm
      (List.replicate workers (turns * duration)) := by
  induction turns with
  | zero =>
    rw [Nat.zero_mul, Nat.zero_mul]
    exact List.Perm.refl _
  | succ turns ih =>
    have hturn := freeTimes_perm_of_turn ih (Nat.le_refl workers)
    rw [Nat.sub_self, List.replicate_zero, List.nil_append] at hturn
    rwa [Nat.succ_mul, Nat.succ_mul]

/-- Equal tasks take one turn for each crew of workers that they fill or begin. -/
theorem servedLength_replicate (hworkers : 0 < workers) (count : Nat) :
    servedLength workers (List.replicate count duration) =
      (count + workers - 1) / workers * duration := by
  cases count with
  | zero =>
    rw [Nat.zero_add, Nat.div_eq_of_lt (by omega), Nat.zero_mul, List.replicate_zero,
      servedLength_of_length_le (Nat.zero_le _)]
    rfl
  | succ count =>
    have hmod := Nat.mod_lt count hworkers
    have hcount : count + 1 = count / workers * workers + (count % workers + 1) := by
      have hdiv := Nat.div_add_mod' count workers
      omega
    have hturns : (count + 1 + workers - 1) / workers = count / workers + 1 := by
      rw [show count + 1 + workers - 1 = count + workers by omega, Nat.add_div_right _ hworkers]
    have hperm : (freeTimes workers (List.replicate
        (count / workers * workers + (count % workers + 1)) duration)).Perm _ :=
      freeTimes_perm_of_turn (freeTimes_replicate_perm (count / workers)) hmod
    rw [← hcount, ← Nat.succ_mul] at hperm
    rw [hturns]
    apply eq_of_forall_ge_iff
    intro bound
    have hle : count / workers * duration ≤ (count / workers + 1) * duration :=
      Nat.mul_le_mul_right _ (Nat.le_succ _)
    rw [servedLength_le_iff]
    simp only [hperm.mem_iff, List.mem_append, List.mem_replicate]
    constructor
    · exact fun h => h _ (.inr ⟨by omega, rfl⟩)
    · rintro h time (⟨_, rfl⟩ | ⟨_, rfl⟩)
      · exact hle.trans h
      · exact h

end FreeTimes

/-! ## Greedy schedules -/

section Counting

variable {ε α : Type} {tasks : List (Task ε α)} {started : List (Option Nat)}
  {i k start time : Nat} {task : Task ε α}

theorem isUnderWay_iff_of_start (hstart : started[i]?.join = some start)
    (htask : tasks[i]? = some task) :
    isUnderWay tasks started time i ↔ start ≤ time ∧ time < start + task.duration := by
  have hend : endOf tasks started i = some (start + task.duration) :=
    endOf_eq_some.2 ⟨start, task, hstart, htask, rfl⟩
  simp [isUnderWay, hstart, hend]

theorem underWay_succ : underWay tasks started (k + 1) time =
    underWay tasks started k time + if isUnderWay tasks started time k then 1 else 0 := by
  rw [underWay, List.range_succ, List.countP_append, List.countP_singleton, underWay]

theorem underWay_mono {n : Nat} (hle : k ≤ n) :
    underWay tasks started k time ≤ underWay tasks started n time :=
  (List.range_sublist.2 hle).countP_le

/-- All of some instants are later than a given one if as many of them are. -/
theorem lt_of_countP_eq {times : List Nat} (h : times.countP (time < ·) = times.length) :
    ∀ free ∈ times, time < free := by
  simpa using List.countP_eq_length.1 h

end Counting

namespace Report

variable {ε α : Type} {tasks : List (Task ε α)} {workers k : Nat} {report : Report ε α}

/-- When the workers are free after the first tasks have come and been served. -/
def freeAfter (tasks : List (Task ε α)) (workers k : Nat) : List Nat :=
  freeTimes workers ((tasks.take k).map (·.duration))

theorem length_freeAfter : (freeAfter tasks workers k).length = workers := length_freeTimes

theorem pairwise_freeAfter : (freeAfter tasks workers k).Pairwise (· ≤ ·) := pairwise_freeTimes

theorem freeAfter_succ {task : Task ε α} (htask : tasks[k]? = some task) :
    freeAfter tasks workers (k + 1) = handOver (freeAfter tasks workers k) task.duration := by
  unfold freeAfter
  rw [List.take_add_one, htask, List.map_append, ← freeTimes_concat]
  rfl

/-- Of the first tasks none starts after a worker is free, and from the last of these starts on as
many of them are under way as there are workers that are free only later. -/
structure Serves (tasks : List (Task ε α)) (workers : Nat) (report : Report ε α) (k : Nat) :
    Prop where
  start_le : ∀ i < k, ∀ start, report.started[i]?.join = some start →
    ∀ free ∈ freeAfter tasks workers k, start ≤ free
  countP_eq : ∀ time, (∀ i < k, ∀ start, report.started[i]?.join = some start → start ≤ time) →
    (freeAfter tasks workers k).countP (time < ·) = underWay tasks report.started k time

theorem serves_zero : Serves tasks workers report 0 where
  start_le i hi := absurd hi (Nat.not_lt_zero i)
  countP_eq time _ := by
    rw [underWay, List.range_zero, List.countP_nil, List.countP_eq_zero]
    intro free hfree
    obtain rfl := (List.mem_replicate.1 hfree).2
    simp

section Step

variable {start : Nat} (hg : report.IsGreedy tasks workers) (h : Serves tasks workers report k)
  (hstart : report.started[k]?.join = some start)
include hg h hstart

/-- While a worker is free the next task does not wait. -/
theorem Serves.start_le_free : ∀ free ∈ freeAfter tasks workers k, start ≤ free := by
  intro free hfree
  by_contra hlt
  have hbusy := hg.full_before k start hstart free (Nat.not_le.1 hlt)
  rw [← h.countP_eq free fun i hi s hs => h.start_le i hi s hs free hfree] at hbusy
  exact Nat.lt_irrefl free (lt_of_countP_eq (hbusy.trans length_freeAfter.symm) free hfree)

/-- A task that takes time does not start before a worker is free. -/
theorem Serves.exists_free_le {task : Task ε α} (htask : tasks[k]? = some task)
    (hpos : 0 < task.duration) : ∃ free ∈ freeAfter tasks workers k, free ≤ start := by
  have hk : k < tasks.length := (List.getElem?_eq_some_iff.1 htask).1
  have hunderWay : isUnderWay tasks report.started start k :=
    (isUnderWay_iff_of_start hstart htask).2 ⟨le_rfl, by omega⟩
  have hcount : (freeAfter tasks workers k).countP (start < ·) < workers := by
    rw [h.countP_eq start fun i hi s hs => hg.start_mono i k s start hi.le hs hstart]
    calc
      underWay tasks report.started k start < underWay tasks report.started (k + 1) start := by
        rw [underWay_succ, if_pos hunderWay]
        exact Nat.lt_succ_self _
      _ ≤ underWay tasks report.started tasks.length start := underWay_mono hk
      _ ≤ workers := hg.underWay_le start
  by_contra hnone
  push Not at hnone
  have hall : (freeAfter tasks workers k).countP (start < ·) =
      (freeAfter tasks workers k).length := List.countP_eq_length.2 (by simpa using hnone)
  exact hcount.ne (hall.trans length_freeAfter)

/-- So it takes the place of the worker that is free first, at the instant of its start. -/
theorem Serves.exists_perm {task : Task ε α} (htask : tasks[k]? = some task)
    (hpos : 0 < task.duration) : ∃ others,
      (freeAfter tasks workers k).Perm (start :: others) ∧
        (freeAfter tasks workers (k + 1)).Perm ((start + task.duration) :: others) := by
  obtain ⟨free, hfree, hle⟩ := h.exists_free_le hg hstart htask hpos
  have hfirst := h.start_le_free hg hstart
  obtain rfl := le_antisymm (hfirst free hfree) hle
  have hperm := List.perm_cons_erase hfree
  refine ⟨_, hperm, ?_⟩
  rw [freeAfter_succ htask]
  exact handOver_perm pairwise_freeAfter hperm fun time htime =>
    hfirst time (List.mem_of_mem_erase htime)

theorem Serves.step {task : Task ε α} (htask : tasks[k]? = some task) :
    Serves tasks workers report (k + 1) := by
  have hfirst := h.start_le_free hg hstart
  have hearlier (i : Nat) (hi : i < k + 1) (s : Nat)
      (hs : report.started[i]?.join = some s) : s ≤ start :=
    hg.start_mono i k s start (Nat.lt_succ_iff.1 hi) hs hstart
  rcases Nat.eq_zero_or_pos task.duration with hzero | hpos
  · -- The task is never under way, and no worker is less free for it.
    have hsame : freeAfter tasks workers (k + 1) = freeAfter tasks workers k := by
      rw [freeAfter_succ htask, hzero, handOver_zero pairwise_freeAfter]
    refine ⟨fun i hi s hs free hfree => ?_, fun time htime => ?_⟩
    · rw [hsame] at hfree
      exact (hearlier i hi s hs).trans (hfirst free hfree)
    · have hnot : ¬ isUnderWay tasks report.started time k := by
        rw [isUnderWay_iff_of_start hstart htask]
        omega
      rw [hsame, underWay_succ, if_neg hnot, Nat.add_zero]
      exact h.countP_eq time fun i hi => htime i (by omega)
  · obtain ⟨others, hbefore, hafter⟩ := h.exists_perm hg hstart htask hpos
    refine ⟨fun i hi s hs free hfree => ?_, fun time htime => ?_⟩
    · refine (hearlier i hi s hs).trans ?_
      rcases List.mem_cons.1 (hafter.mem_iff.1 hfree) with rfl | hmem
      · exact Nat.le_add_right _ _
      · exact hfirst free (hbefore.mem_iff.2 (List.mem_cons_of_mem _ hmem))
    · have hle : start ≤ time := htime k (Nat.lt_succ_self k) start hstart
      have hcount := h.countP_eq time fun i hi => htime i (by omega)
      rw [hbefore.countP_eq, List.countP_cons_of_neg (by simpa using hle)] at hcount
      rw [hafter.countP_eq, List.countP_cons, hcount, underWay_succ]
      simp [isUnderWay_iff_of_start hstart htask, hle]

end Step

theorem IsGreedy.serves (hg : report.IsGreedy tasks workers) (hk : k ≤ tasks.length) :
    Serves tasks workers report k := by
  induction k with
  | zero => exact serves_zero
  | succ k ih =>
    obtain ⟨start, hstart⟩ := Option.isSome_iff_exists.1 (hg.all_started k hk)
    exact (ih (Nat.le_of_succ_le hk)).step hg hstart (List.getElem?_eq_getElem hk)

/-- A greedy schedule takes as long as the one that serves the tasks as they come. -/
theorem IsGreedy.elapsed_eq (hg : report.IsGreedy tasks workers) (hworkers : 0 < workers)
    (hne : tasks ≠ []) : report.elapsed = servedLength workers (tasks.map (·.duration)) := by
  have hserves := hg.serves le_rfl
  have hfree : freeTimes workers (tasks.map (·.duration)) =
      freeAfter tasks workers tasks.length := by
    rw [freeAfter, List.take_length]
  obtain ⟨⟨last, hlast⟩, hgreatest⟩ := hg.elapsed_isGreatest hne
  obtain ⟨start, task, hstart, htask, helapsed⟩ := endOf_eq_some.1 hlast
  have hlt : last < tasks.length := (List.getElem?_eq_some_iff.1 htask).1
  apply le_antisymm
  · -- If all workers were free before the last task is over, it would be under way then.
    by_contra hlonger
    have hearly : ∀ free ∈ freeAfter tasks workers tasks.length, free < report.elapsed := by
      rw [← hfree]
      intro free hmem
      exact (servedLength_le_iff.1 le_rfl free hmem).trans_lt (Nat.not_le.1 hlonger)
    have hlength : (freeAfter tasks workers tasks.length).length = workers := length_freeAfter
    obtain ⟨free, hmem⟩ := List.exists_mem_of_length_pos (hworkers.trans_eq hlength.symm)
    have hstarts (i : Nat) (hi : i < tasks.length) (s : Nat)
        (hs : report.started[i]?.join = some s) : s < report.elapsed :=
      (hserves.start_le i hi s hs free hmem).trans_lt (hearly free hmem)
    have hcount := hserves.countP_eq (report.elapsed - 1) fun i hi s hs =>
      Nat.le_sub_one_of_lt (hstarts i hi s hs)
    have hnone : (freeAfter tasks workers tasks.length).countP (report.elapsed - 1 < ·) = 0 := by
      rw [List.countP_eq_zero]
      intro time htime
      have := hearly time htime
      simp only [decide_eq_true_eq]
      omega
    rw [hnone, eq_comm, underWay, List.countP_eq_zero] at hcount
    have := hstarts last hlt start hstart
    exact hcount last (List.mem_range.2 hlt)
      ((isUnderWay_iff_of_start hstart htask).2 ⟨by omega, by omega⟩)
  · rw [servedLength_le_iff, hfree]
    have hcount := hserves.countP_eq report.elapsed fun i hi s hs => by
      have hend : endOf tasks report.started i = some (s + tasks[i].duration) :=
        endOf_eq_some.2 ⟨s, tasks[i], hs, List.getElem?_eq_getElem hi, rfl⟩
      exact (Nat.le_add_right _ _).trans (hgreatest ⟨i, hend⟩)
    have hnone : underWay tasks report.started tasks.length report.elapsed = 0 := by
      rw [underWay, List.countP_eq_zero]
      intro i _ hunderWay
      obtain ⟨_, ending, _, hend, _, hlate⟩ := isUnderWay_iff.1 hunderWay
      exact absurd (hgreatest ⟨i, hend⟩) (Nat.not_le.2 hlate)
    rw [hnone, List.countP_eq_zero] at hcount
    simpa using hcount

end Report

end Pool

/-! ## Attempts -/

variable {ε α : Type}

/-- A job that is never cancelled takes as long as its tasks do when they are served as they
come. -/
theorem Job.elapsed_of_execute_never {ι : Type} (job : Job ι ε α)
    (hresult : ∀ task ∈ job.inputs.map job.task, task.ending.IsResult) :
    ∃ report, job.execute .never = .returned report ∧ report.elapsed =
      Pool.servedLength job.workers ((job.inputs.map job.task).map (·.duration)) := by
  rcases eq_or_ne job.inputs [] with hnil | hne
  · refine ⟨_, execute_nil hnil .never, ?_⟩
    rw [hnil, Pool.servedLength_of_length_le (Nat.zero_le _)]
    rfl
  · have hworkers := workers_pos hne
    obtain ⟨report, hreturned, hgreedy⟩ := Pool.execute_none_isGreedy hresult hworkers
      (by rw [List.length_map]; exact job.workers_le)
    exact ⟨report, (execute_never_eq_pool job).trans hreturned,
      hgreedy.elapsed_eq hworkers (by simpa using hne)⟩

/-- Attempts on some workers take as long as their waits do when they are served as they come. -/
theorem runAttempts_waited {workers : Nat} (hworkers : 0 < workers)
    (attempts : List (Attempt (Except ε α))) : (runAttempts workers .never attempts).waited =
      Pool.servedLength workers (attempts.map (·.waited)) := by
  have hresult : ∀ task ∈ attempts.map Attempt.task, task.ending.IsResult := by
    intro task htask
    obtain ⟨a, _, rfl⟩ := List.mem_map.1 htask
    exact a.task_isResult
  obtain ⟨report, hreturned, helapsed⟩ :=
    (Job.ofAttempts workers attempts).elapsed_of_execute_never hresult
  have hdurations : (attempts.map Attempt.task).map (·.duration) = attempts.map (·.waited) := by
    rw [List.map_map]
    rfl
  have hcrew : (Job.ofAttempts workers attempts).workers = min workers attempts.length := by
    unfold Job.workers Job.ofAttempts
    rw [if_neg hworkers.ne']
  rw [hcrew] at helapsed
  unfold runAttempts
  rw [hreturned]
  refine helapsed.trans ?_
  change Pool.servedLength _ ((attempts.map Attempt.task).map (·.duration)) = _
  rw [hdurations]
  rcases Nat.le_total attempts.length workers with hle | hle
  · rw [Nat.min_eq_right hle, Pool.servedLength_of_length_le (by rw [List.length_map]),
      Pool.servedLength_of_length_le (by rwa [List.length_map])]
  · rw [Nat.min_eq_left hle]

end DashboardRefresh
