import DashboardRefresh.Fetch.Error
import DashboardRefresh.Refresh.Policy

/-!
# Refresh states

The schedule and the status of one widget. After a success the next update follows the policy;
after the k-th failure in a row it comes k² minutes later (k at most five), or when the policy
would have it, whichever is earlier.

A report can find that the next update lies outside the range of instants. It has then recorded
everything but the next update, and says so.
-/

namespace DashboardRefresh

/-- How one update of a widget ended. -/
inductive Outcome where
  | success
  /-- Some items are missing, with enough left to show. -/
  | partialFailure (notice : FetchError)
  /-- Nothing usable was retrieved. -/
  | totalFailure (error : FetchError)
  deriving DecidableEq

namespace Outcome

/-- An error that leaves content is a partial failure, every other one a total failure. -/
def ofResult : Except FetchError Unit → Outcome
  | .ok () => success
  | .error e => if e.isPartial then partialFailure e else totalFailure e

/-- Whether freshly fetched data may be stored. -/
def keepsData : Outcome → Bool
  | totalFailure _ => false
  | _ => true

end Outcome

structure RefreshState where
  policy : CachePolicy
  nextUpdate : Option Instant
  retryCount : Nat
  contentAvailable : Bool
  lastError : Option FetchError
  lastNotice : Option FetchError
  lastUpdated : Option Instant
  deriving DecidableEq

/-- A state after a report, and whether the next update could be computed. -/
structure Reported where
  state : RefreshState
  complete : Bool

namespace RefreshState

/-- The failure count at which the retry delay stops growing. -/
def maxRetryCount : Nat := 5

/-- A new state: due at once, without content. -/
def initial (policy : CachePolicy) : RefreshState :=
  ⟨policy, none, 0, false, none, none, none⟩

/-- Static widgets have content from the start. -/
def withContent (s : RefreshState) : RefreshState := { s with contentAvailable := true }

/-- Whether the widget should be updated at `now`. -/
def isDue (s : RefreshState) (now : Instant) : Bool :=
  if s.policy.isNever then false
  else match s.nextUpdate with
    | none => true
    | some next => decide (next < now)

/-- The minutes to the next retry, for the failures counted so far. -/
def retryMinutes (s : RefreshState) : Nat := s.retryCount * s.retryCount

/-- One more failure counted. -/
def countFailure (s : RefreshState) : RefreshState :=
  { s with retryCount := min (s.retryCount + 1) maxRetryCount }

/-- What an outcome records apart from the next update. -/
def record (s : RefreshState) (outcome : Outcome) (now : Instant) : RefreshState :=
  match outcome with
  | .success =>
    { s with
      lastError := none, lastNotice := none, contentAvailable := true, lastUpdated := some now,
      retryCount := 0 }
  | .partialFailure notice =>
    { s with
      lastError := none, lastNotice := some notice, contentAvailable := true,
      lastUpdated := some now }.countFailure
  | .totalFailure error => { s with lastError := some error, lastNotice := none }.countFailure

/-- The next update of a state that has just recorded an outcome: the regular one after a success,
the earlier of that and the retry after a failure. -/
def schedule (s : RefreshState) (outcome : Outcome) (offset : Int) (now : Instant) :
    Except OutOfRange (Option Instant) :=
  match outcome with
  | .success => s.policy.nextUpdate offset now
  | _ => do
    let early ← now.shift (s.retryMinutes * 60 * 1000000000)
    let usual ← s.policy.nextUpdate offset now
    return usual.map (min early)

/-- Absorb the outcome of an update that ended at `now`. -/
def report (s : RefreshState) (outcome : Outcome) (offset : Int) (now : Instant) : Reported :=
  let recorded := s.record outcome now
  match recorded.schedule outcome offset now with
  | .ok next => ⟨{ recorded with nextUpdate := next }, true⟩
  | .error _ => ⟨recorded, false⟩

end RefreshState

end DashboardRefresh
