import DashboardRefresh.Number.Word
import DashboardRefresh.Time.Duration
import DashboardRefresh.Time.Instant

/-!
# Cache policies

How often a widget is refreshed while nothing goes wrong: never, a fixed time after the last
update, or at every full hour of the local clock. Local time is the universal time plus a fixed
offset in minutes.
-/

namespace DashboardRefresh

inductive CachePolicy where
  /-- Static content, never refreshed by itself. -/
  | never
  /-- Refreshed a fixed time after the last update. -/
  | fixed (every : Duration)
  /-- Refreshed at the start of each hour of the local clock. -/
  | hourly
  deriving DecidableEq

namespace CachePolicy

def isNever : CachePolicy → Bool
  | never => true
  | _ => false

/-- One hour in nanoseconds. -/
def hourNanos : Int := 3600 * 1000000000

/-- The longest span that date arithmetic takes, in nanoseconds. -/
def longestSpan : Nat := (Word.signedLimit - 1) * 1000000

/-- The time since the last full hour of the clock `offset` minutes east of universal time. -/
def intoHour (offset : Int) (now : Instant) : Int :=
  (now.nanos + offset * 60 * 1000000000) % hourNanos

/-- The start of the local hour after the one that `now` lies in. An instant on the hour moves on
by a full hour. -/
def nextHour (offset : Int) (now : Instant) : Except OutOfRange Instant := do
  let start ← now.shift (-intoHour offset now)
  start.shift hourNanos

/-- The instant `every` after `now`, or the last one there is when that is out of range. -/
def afterFixed (every : Duration) (now : Instant) : Instant :=
  (now.shift? (min every.toNanos longestSpan : Nat)).getD Instant.latest

/-- When the next regular update is due, counted from `now`; `none` for never. -/
def nextUpdate (policy : CachePolicy) (offset : Int) (now : Instant) :
    Except OutOfRange (Option Instant) :=
  match policy with
  | never => .ok none
  | fixed every => .ok (some (afterFixed every now))
  | hourly => (nextHour offset now).map some

end CachePolicy

end DashboardRefresh
