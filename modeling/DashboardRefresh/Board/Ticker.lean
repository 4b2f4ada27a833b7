import DashboardRefresh.Board.Dashboard

/-!
# Tickers

A ticker sweeps a dashboard at every multiple of an interval, counted from its start, until it is
stopped. Ticks that time has run past are made up for, all of them at the time that it is then. A
tick at which the clock cannot be read is the end of the ticker.

A ticker sees the next tick or the stop when a sweep is over. On a network that keeps nobody waiting
that is at once; on others nothing is said here.
-/

namespace DashboardRefresh

/-- The timer of a system. Periods are counted in milliseconds. -/
structure Timer where
  /-- The longest period that the timer can hold. -/
  longest : Nat
  /-- The period that it keeps in place of a longer one. -/
  fallback : Nat
  fallback_pos : 0 < fallback

namespace Timer

/-- The period that the timer keeps for an interval. -/
def period (timer : Timer) (interval : Nat) : Nat :=
  if interval ≤ timer.longest then interval else timer.fallback

theorem period_of_le {timer : Timer} {interval : Nat} (h : interval ≤ timer.longest) :
    timer.period interval = interval := if_pos h

theorem period_pos (timer : Timer) {interval : Nat} (h : 0 < interval) :
    0 < timer.period interval := by
  unfold period
  split
  · exact h
  · exact timer.fallback_pos

end Timer

structure Ticker where
  dashboard : Dashboard
  /-- The milliseconds from one tick to the next. -/
  period : Nat
  /-- The milliseconds since the start. -/
  elapsed : Nat
  clock : Clock
  finished : Bool

namespace Ticker

/-- A ticker that starts at `clock`. Without an interval it has come to its end at once. -/
def start (timer : Timer) (d : Dashboard) (interval : Nat) (clock : Clock) : Ticker :=
  ⟨d, timer.period interval, 0, clock, interval == 0⟩

/-- How many ticks fall after `earlier` and not after `later`. -/
def ticksBetween (period earlier later : Nat) : Nat := later / period - earlier / period

/-- What the sweeps of a ticker meet while time goes on: the zone, the network and, for each of the
sweeps in turn, which answers count that come together with a cancellation. -/
structure Situation where
  offset : Int
  network : PromptNetwork
  answerCounts : Nat → Nat → Bool

/-- What the next sweep meets at the time of a clock. -/
def Situation.conditions (s : Situation) (clock : Clock) : Conditions :=
  ⟨clock, s.offset, s.network, s.answerCounts 0⟩

/-- What the sweeps after the next one meet. -/
def Situation.afterSweep (s : Situation) : Situation :=
  { s with answerCounts := fun sweep => s.answerCounts (sweep + 1) }

/-- Up to `n` sweeps one after the other at `now`. A sweep that finds nothing due is the last one,
because those after it would not find anything either. -/
def sweeps (clock : Clock) (now : Instant) : Nat → Situation → Dashboard → Dashboard
  | 0, _, d => d
  | n + 1, s, d =>
    let swept := d.sweep (s.conditions clock) now
    if swept.dispatched = 0 then d else sweeps clock now n s.afterSweep swept.dashboard

/-- Run some ticks that are due, at the time that the clock shows. -/
def tick (t : Ticker) (s : Situation) (ticks : Nat) : Ticker :=
  if t.finished ∨ ticks = 0 then t
  else match t.clock.read with
    | .error _ => { t with finished := true }
    | .ok now => { t with dashboard := sweeps t.clock now ticks s t.dashboard }

/-- Time goes on by some milliseconds. -/
def advance (t : Ticker) (s : Situation) (millis : Nat) : Ticker :=
  let later := t.elapsed + millis
  { t with clock := t.clock.advance millis, elapsed := later }.tick s
    (ticksBetween t.period t.elapsed later)

/-- Stop the ticker. -/
def stop (t : Ticker) : Ticker := { t with finished := true }

end Ticker

end DashboardRefresh
