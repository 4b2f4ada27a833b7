import DashboardRefresh.Pool.Batch

/-!
# The worker pool

Tasks run on a fixed number of workers. A dispatcher hands inputs over in order through a queue
with one place; an idle worker takes the queued input, runs its task and records how it ended.
Time is counted in milliseconds and moves only when nothing else can happen. A task that crashes
takes its worker with it. Cancelling stops the dispatcher and nothing else.

The pool is a state and a step function. At one instant the steps come in this order: an idle
worker takes the queued input, a task that is over ends, the dispatcher fills the queue. Only then
does time move on, to the next end of a task or to the cancellation.
-/

namespace DashboardRefresh

/-- How a task ends. -/
inductive Ending (ε α : Type) where
  | value (a : α)
  | error (e : ε)
  /-- The task dies with a message, and its worker with it. -/
  | crash (message : String)
  deriving DecidableEq

/-- A task: the milliseconds it takes, and how it ends. -/
structure Task (ε α : Type) where
  duration : Nat
  ending : Ending ε α
  deriving DecidableEq

namespace Pool

variable {ε α : Type}

/-- A task under way: its worker, its input and the instant at which it ends. -/
structure Running where
  worker : Nat
  input : Nat
  ends : Nat
  deriving DecidableEq

structure State (ε α : Type) where
  clock : Nat
  /-- How many inputs the dispatcher has handed over. -/
  dispatched : Nat
  /-- The input in the queue. -/
  queued : Option Nat
  /-- The dispatcher has been cancelled. -/
  stopped : Bool
  /-- The workers without a task, the longest waiting first. -/
  idle : List Nat
  /-- The tasks under way, in the order of their starts. -/
  running : List Running
  /-- The workers that crashed, with their messages. -/
  dead : List (Nat × String)
  /-- When the task of each input started. -/
  started : List (Option Nat)
  /-- The most tasks that were under way at once. -/
  peak : Nat
  batch : Batch ε α

/-- `workers` idle workers and `n` inputs to hand over. -/
def State.initial (n workers : Nat) : State ε α where
  clock := 0
  dispatched := 0
  queued := none
  stopped := false
  idle := List.range workers
  running := []
  dead := []
  started := List.replicate n none
  peak := 0
  batch := Batch.empty n

/-- The task of `input` is over: its result is recorded, and the worker is idle again or dead. -/
def State.settle (s : State ε α) (worker input : Nat) : Ending ε α → State ε α
  | .value a => { s with batch := s.batch.fill input (.ok a), idle := s.idle ++ [worker] }
  | .error e => { s with batch := s.batch.fill input (.error e), idle := s.idle ++ [worker] }
  | .crash message => { s with dead := s.dead ++ [(worker, message)] }

/-- `worker` starts on `input`. A task that takes no time is over at once. -/
def State.start (s : State ε α) (worker input : Nat) (task : Task ε α) : State ε α :=
  let s := { s with
    started := s.started.set input (some s.clock)
    peak := max s.peak (s.running.length + 1) }
  if task.duration = 0 then s.settle worker input task.ending
  else { s with running := s.running ++ [⟨worker, input, s.clock + task.duration⟩] }

/-- The task that ends first, the earlier started of two that end together. -/
def soonest : List Running → Option Running
  | [] => none
  | r :: rs =>
    match soonest rs with
    | none => some r
    | some q => some (if r.ends ≤ q.ends then r else q)

/-- The task of `r` is over. -/
def State.finish (s : State ε α) (r : Running) (task : Task ε α) : State ε α :=
  { s with clock := max s.clock r.ends, running := s.running.erase r }.settle
    r.worker r.input task.ending

/-- Whether inputs are left to hand over. -/
def State.hasMore (s : State ε α) : Bool := !s.stopped && s.dispatched < s.started.length

/-- Time moves on, to the cancellation if inputs are left to hand over and no task ends before it,
or to the next end of a task. -/
def State.wait (tasks : List (Task ε α)) (cancelAt : Option Nat) (s : State ε α) :
    Option (State ε α) :=
  let finish : Option (State ε α) := do
    let r ← soonest s.running
    let task ← tasks[r.input]?
    return s.finish r task
  match cancelAt with
  | none => finish
  | some c =>
    if s.hasMore ∧ ∀ r ∈ s.running, c < r.ends then
      some { s with clock := max s.clock c, stopped := true }
    else finish

/-- The next step of the pool, if there is one. -/
def State.step (tasks : List (Task ε α)) (cancelAt : Option Nat) (s : State ε α) :
    Option (State ε α) :=
  match s.queued, s.idle with
  | some i, w :: ws => do
    let task ← tasks[i]?
    return { s with queued := none, idle := ws }.start w i task
  | queued, _ =>
    match (soonest s.running).filter (·.ends ≤ s.clock) with
    | some r => do
      let task ← tasks[r.input]?
      return s.finish r task
    | none =>
      if queued = none ∧ s.hasMore then
        some { s with queued := some s.dispatched, dispatched := s.dispatched + 1 }
      else s.wait tasks cancelAt

/-- Steps until there is none, at most `fuel` of them. -/
def State.run (tasks : List (Task ε α)) (cancelAt : Option Nat) : Nat → State ε α → State ε α
  | 0, s => s
  | fuel + 1, s =>
    match s.step tasks cancelAt with
    | none => s
    | some t => t.run tasks cancelAt fuel

/-- Each input is handed over, taken and ended once, and the dispatcher is stopped once. -/
def stepBound (n : Nat) : Nat := 3 * n + 1

/-- What the pool shows for a finished run. -/
structure Report (ε α : Type) where
  batch : Batch ε α
  started : List (Option Nat)
  peak : Nat
  elapsed : Nat
  deriving DecidableEq

/-- How a run of the pool turns out. -/
inductive Verdict (ε α : Type) where
  | returned (report : Report ε α)
  /-- A task crashed, and its message is passed on once all others are over. -/
  | crashed (message : String)
  /-- Every worker is dead, and an input waits for the queue for ever. -/
  | waitsForEver
  deriving DecidableEq

/-- The crash of the worker with the least number. -/
def firstCrash : List (Nat × String) → Option (Nat × String)
  | [] => none
  | d :: ds =>
    match firstCrash ds with
    | none => some d
    | some e => some (if d.1 ≤ e.1 then d else e)

/-- Read the result off a state that has no further step. -/
def State.verdict (s : State ε α) : Verdict ε α :=
  if s.hasMore then .waitsForEver
  else match firstCrash s.dead with
    | some (_, message) => .crashed message
    | none =>
      let interrupted :=
        if s.stopped then some (.cancelled s.dispatched s.started.length) else none
      .returned ⟨{ s.batch with interrupted }, s.started, s.peak, s.clock⟩

/-- Run all tasks on `workers` workers. -/
def execute (tasks : List (Task ε α)) (workers : Nat) (cancelAt : Option Nat) : Verdict ε α :=
  ((State.initial tasks.length workers).run tasks cancelAt (stepBound tasks.length)).verdict

end Pool

end DashboardRefresh
