import DashboardRefresh.Http.Network
import DashboardRefresh.Pool.Job

/-!
# Batches of attempts

Attempts that are independent of each other are made on the worker pool, each taking as long as it
has to wait.
-/

namespace DashboardRefresh

/-- What came of a batch of attempts. -/
structure BatchRun (ε α : Type) where
  batch : Batch ε α
  /-- The requests that reached the network. -/
  sent : List Request
  /-- The milliseconds until all results were there. -/
  waited : Nat
  /-- Whether anything had to be waited for at all. -/
  connected : Bool

variable {ε α : Type}

/-- The task of making an attempt. -/
def Attempt.task (a : Attempt (Except ε α)) : Task ε α :=
  ⟨a.waited, match a.result with
    | .ok value => .value value
    | .error error => .error error⟩

/-- The job of making attempts on a number of workers. -/
def Job.ofAttempts (workers : Nat) (attempts : List (Attempt (Except ε α))) :
    Job (Attempt (Except ε α)) ε α :=
  ⟨attempts, workers, Attempt.task⟩

/-- Make attempts on a number of workers, up to a cancellation. The attempts that are not started
send nothing. -/
def runAttempts (workers : Nat) (cancellation : Cancellation)
    (attempts : List (Attempt (Except ε α))) : BatchRun ε α :=
  match (Job.ofAttempts workers attempts).execute cancellation with
  | .returned report =>
    { batch := report.batch
      sent := (List.zipWith (fun a start => start.bind fun _ => a.sent) attempts
        report.started).filterMap id
      waited := report.elapsed
      connected := cancellation ≠ .before ∧
        (1 < attempts.length || attempts.any (·.connected)) }
  | _ => ⟨Batch.empty attempts.length, [], 0, false⟩

end DashboardRefresh
