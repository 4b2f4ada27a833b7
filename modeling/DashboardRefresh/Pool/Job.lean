import DashboardRefresh.Pool.Schedule

/-!
# Jobs

A job is a list of inputs, a task for each and a number of workers. No input means no work, and a
single input is run in place, without the pool.
-/

namespace DashboardRefresh

/-- When a job is cancelled. -/
inductive Cancellation where
  | never
  /-- Before the job is executed. -/
  | before
  /-- At a millisecond after it was started. -/
  | atMillis (millis : Nat)
  deriving DecidableEq

structure Job (ι ε α : Type) where
  inputs : List ι
  /-- The number of workers asked for, zero for the default. -/
  requested : Nat
  task : ι → Task ε α

namespace Job

variable {ι ε α : Type}

/-- The number of workers of a job that asks for none. -/
def defaultWorkers : Nat := 10

/-- The workers that are started: never more than there are inputs, and at least one if there is
an input. -/
def workers (job : Job ι ε α) : Nat :=
  min (if job.requested = 0 then defaultWorkers else job.requested) job.inputs.length

/-- A job of one task, run in place. -/
def runSingle (task : Task ε α) : Pool.Verdict ε α :=
  let report (result : Except ε α) : Pool.Report ε α :=
    ⟨(Batch.empty 1).fill 0 result, [some 0], 1, task.duration⟩
  match task.ending with
  | .value a => .returned (report (.ok a))
  | .error e => .returned (report (.error e))
  | .crash message => .crashed message

/-- A batch of `n` inputs of which nothing was run. -/
def notRun (n : Nat) (interrupted : Option Interruption) : Pool.Verdict ε α :=
  .returned ⟨{ Batch.empty n with interrupted }, List.replicate n none, 0, 0⟩

/-- Run the task of every input and collect the results in the order of the inputs. -/
def execute (job : Job ι ε α) (cancellation : Cancellation) : Pool.Verdict ε α :=
  match job.inputs, cancellation with
  | [], _ => notRun 0 none
  | inputs, .before => notRun inputs.length (some (.cancelled 0 inputs.length))
  | [input], _ => runSingle (job.task input)
  | inputs, .never => Pool.execute (inputs.map job.task) job.workers none
  | inputs, .atMillis c => Pool.execute (inputs.map job.task) job.workers (some c)

end Job

end DashboardRefresh
