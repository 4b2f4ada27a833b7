import DashboardRefresh.Pool.Schedule
import Mathlib.Data.List.Basic

/-!
# The slots of a batch

A batch is filled one task at a time, in any order. What it holds in the end depends only on which
tasks have been recorded: `Batch.ofRecorded` is that batch, and recording one task more is one more
input in the set.
-/

namespace DashboardRefresh

variable {ε α : Type}

/-- The value that a task ends with, if it does. -/
def Ending.value? : Ending ε α → Option α
  | .value a => some a
  | _ => none

/-- The error that a task ends with, if it does. -/
def Ending.error? : Ending ε α → Option ε
  | .error e => some e
  | _ => none

namespace Batch

/-- Store how the task of input `i` ended. A crash leaves nothing to store. -/
def record (b : Batch ε α) (i : Nat) : Ending ε α → Batch ε α
  | .value a => b.fill i (.ok a)
  | .error e => b.fill i (.error e)
  | .crash _ => b

/-- The batch of running the tasks one after the other. -/
def inTurn (tasks : List (Task ε α)) : Batch ε α :=
  tasks.zipIdx.foldl (fun b p => b.record p.2 p.1.ending) (empty tasks.length)

/-- One slot per task, filled by `part` for the recorded inputs. -/
def slotsOf {β : Type} (part : Ending ε α → Option β) (tasks : List (Task ε α))
    (recorded : Nat → Bool) : List (Option β) :=
  tasks.mapIdx fun i task => if recorded i then part task.ending else none

/-- The batch of the tasks whose inputs have been recorded. -/
def ofRecorded (tasks : List (Task ε α)) (recorded : Nat → Bool) : Batch ε α where
  outputs := slotsOf Ending.value? tasks recorded
  errors := slotsOf Ending.error? tasks recorded
  interrupted := none

/-- The slots of input `i` hold exactly how its task ended: its value and no error, or its error and
no value. -/
def Holds (b : Batch ε α) (i : Nat) (ending : Ending ε α) : Prop :=
  b.outputs[i]? = some ending.value? ∧ b.errors[i]? = some ending.error?

/-! ## Slots -/

section Slots

variable {β : Type} {part : Ending ε α → Option β} {tasks : List (Task ε α)}
  {recorded : Nat → Bool}

@[simp] theorem length_slotsOf : (slotsOf part tasks recorded).length = tasks.length := by
  simp [slotsOf]

theorem getElem?_slotsOf (i : Nat) :
    (slotsOf part tasks recorded)[i]? =
      tasks[i]?.map fun task => if recorded i then part task.ending else none := by
  simp [slotsOf]

theorem slotsOf_congr (other : Nat → Bool) (h : ∀ i < tasks.length, recorded i = other i) :
    slotsOf part tasks recorded = slotsOf part tasks other := by
  apply List.ext_getElem?
  intro i
  rw [getElem?_slotsOf, getElem?_slotsOf]
  by_cases hi : i < tasks.length
  · rw [h i hi]
  · simp [List.getElem?_eq_none (Nat.le_of_not_lt hi)]

theorem slotsOf_false : slotsOf part tasks (fun _ => false) = List.replicate tasks.length none := by
  simp [slotsOf, List.mapIdx_eq_replicate_iff]

theorem slotsOf_true :
    slotsOf part tasks (fun _ => true) = tasks.map fun task => part task.ending := by
  apply List.ext_getElem?
  intro i
  simp [getElem?_slotsOf]

/-- The slots of a prefix of the tasks. -/
theorem slotsOf_lt {k : Nat} (hk : k ≤ tasks.length) :
    slotsOf part tasks (fun i => i < k) =
      (tasks.take k).map (fun task => part task.ending) ++
        List.replicate (tasks.length - k) none := by
  apply List.ext_getElem?
  intro i
  rw [getElem?_slotsOf, List.getElem?_append, List.getElem?_map, List.getElem?_take,
    List.length_map, List.length_take, Nat.min_eq_left hk, List.getElem?_replicate]
  by_cases hi : i < k
  · simp [hi]
  · by_cases hn : i < tasks.length
    · simp [hi, hn, show i - k < tasks.length - k by omega]
    · simp [hi, hn, show ¬ i - k < tasks.length - k by omega]

/-- Recording one task more stores its part at its position. -/
theorem slotsOf_insert {i : Nat} {task : Task ε α} (h : tasks[i]? = some task) :
    slotsOf part tasks (fun j => j == i || recorded j) =
      (slotsOf part tasks recorded).set i (part task.ending) := by
  apply List.ext_getElem?
  intro j
  rw [getElem?_slotsOf, List.getElem?_set, getElem?_slotsOf, length_slotsOf]
  obtain ⟨hi, rfl⟩ := List.getElem?_eq_some_iff.1 h
  by_cases hj : i = j
  · subst hj
    simp [hi]
  · simp [hj, Ne.symm hj]

/-- A task without the part leaves the slots as they are. -/
theorem slotsOf_insert_of_none {i : Nat} {task : Task ε α} (h : tasks[i]? = some task)
    (hnone : part task.ending = none) :
    slotsOf part tasks (fun j => j == i || recorded j) = slotsOf part tasks recorded := by
  apply List.ext_getElem?
  intro j
  rw [getElem?_slotsOf, getElem?_slotsOf]
  by_cases hj : j = i
  · subst hj
    simp [h, hnone]
  · simp [hj]

end Slots

/-! ## Batches of recorded tasks -/

variable {tasks : List (Task ε α)} {recorded : Nat → Bool}

theorem ofRecorded_congr (other : Nat → Bool) (h : ∀ i < tasks.length, recorded i = other i) :
    ofRecorded tasks recorded = ofRecorded tasks other := by
  rw [ofRecorded, ofRecorded, slotsOf_congr other h, slotsOf_congr other h]

theorem ofRecorded_false : ofRecorded tasks (fun _ => false) = empty tasks.length := by
  rw [ofRecorded, slotsOf_false, slotsOf_false, empty]

/-- Recording the task of an input adds the input to those that are recorded. -/
theorem record_ofRecorded {i : Nat} {task : Task ε α} (h : tasks[i]? = some task) :
    (ofRecorded tasks recorded).record i task.ending =
      ofRecorded tasks (fun j => j == i || recorded j) := by
  cases hending : task.ending with
  | value a =>
    have hvalue : task.ending.value? = some a := by rw [hending]; rfl
    have herror : task.ending.error? = none := by rw [hending]; rfl
    simp only [record, fill, ofRecorded]
    rw [slotsOf_insert h, hvalue, slotsOf_insert_of_none h herror]
  | error e =>
    have hvalue : task.ending.value? = none := by rw [hending]; rfl
    have herror : task.ending.error? = some e := by rw [hending]; rfl
    simp only [record, fill, ofRecorded]
    rw [slotsOf_insert_of_none h hvalue, slotsOf_insert h, herror]
  | crash message =>
    have hvalue : task.ending.value? = none := by rw [hending]; rfl
    have herror : task.ending.error? = none := by rw [hending]; rfl
    simp only [record, ofRecorded]
    rw [slotsOf_insert_of_none h hvalue, slotsOf_insert_of_none h herror]

/-- Running tasks one after the other records them all. -/
theorem inTurn_eq : inTurn tasks = ofRecorded tasks (fun _ => true) := by
  -- The induction is on the tasks that are left, the ones before them being recorded.
  have hfold (rest : List (Task ε α)) (k : Nat) (hrest : tasks.drop k = rest) :
      (rest.zipIdx k).foldl (fun b p => b.record p.2 p.1.ending)
          (ofRecorded tasks fun i => i < k) =
        ofRecorded tasks (fun _ => true) := by
    induction rest generalizing k with
    | nil =>
      have hk : tasks.length ≤ k := List.drop_eq_nil_iff.1 hrest
      exact ofRecorded_congr _ fun i hi => by simp [Nat.lt_of_lt_of_le hi hk]
    | cons task rest ih =>
      have htask : tasks[k]? = some task := by
        rw [← List.head?_drop, hrest, List.head?_cons]
      have hdrop : tasks.drop (k + 1) = rest := by
        rw [← List.tail_drop, hrest, List.tail_cons]
      rw [List.zipIdx_cons, List.foldl_cons, record_ofRecorded htask, ← ih (k + 1) hdrop]
      congr 1
      apply ofRecorded_congr
      intro i _
      simp only [Nat.lt_succ_iff_lt_or_eq, Bool.decide_or]
      rw [Bool.or_comm]
      rfl
  have h := hfold tasks 0 rfl
  rw [ofRecorded_congr (fun _ => false) (by simp), ofRecorded_false] at h
  exact h

theorem inTurn_outputs : (inTurn tasks).outputs = tasks.map (·.ending.value?) := by
  rw [inTurn_eq]
  exact slotsOf_true

theorem inTurn_errors : (inTurn tasks).errors = tasks.map (·.ending.error?) := by
  rw [inTurn_eq]
  exact slotsOf_true

theorem inTurn_interrupted : (inTurn tasks).interrupted = none := by
  rw [inTurn_eq]
  rfl

theorem inTurn_holds {i : Nat} {task : Task ε α} (h : tasks[i]? = some task) :
    (inTurn tasks).Holds i task.ending := by
  simp [Holds, inTurn_outputs, inTurn_errors, h]

/-- How long the tasks take has no part in their batch. -/
theorem inTurn_congr {others : List (Task ε α)} (h : others.map (·.ending) = tasks.map (·.ending)) :
    inTurn others = inTurn tasks := by
  have hparts {β : Type} (part : Ending ε α → Option β) :
      others.map (fun task => part task.ending) = tasks.map (fun task => part task.ending) := by
    have hmap := congrArg (List.map part) h
    simpa only [List.map_map, Function.comp_def] using hmap
  rw [inTurn_eq, inTurn_eq, ofRecorded, ofRecorded, slotsOf_true, slotsOf_true, slotsOf_true,
    slotsOf_true, hparts, hparts]

end Batch

end DashboardRefresh
