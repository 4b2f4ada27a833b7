import DashboardRefresh.Time.Instant

/-!
# Clocks

The clock of a system counts from the Unix epoch. A clock that was set to a time before the epoch,
or that has run past the last instant, cannot be read.
-/

namespace DashboardRefresh

/-- A clock, by the nanoseconds that it is ahead of the epoch. -/
@[ext] structure Clock where
  nanos : Int
  deriving DecidableEq

namespace Clock

/-- A clock that is set to an instant. -/
def setTo (i : Instant) : Clock := ⟨i.nanos⟩

/-- The clock after some milliseconds. -/
def advance (c : Clock) (millis : Nat) : Clock := ⟨c.nanos + millis * 1000000⟩

/-- What the clock shows. -/
def read (c : Clock) : Except OutOfRange Instant :=
  if c.nanos < 0 then .error .outOfRange
  else match Instant.ofNanos? c.nanos with
    | some i => .ok i
    | none => .error .outOfRange

/-- A clock shows the instant that it is set to, unless that lies before the epoch. -/
theorem read_setTo {i : Instant} (h : 0 ≤ i.nanos) : (setTo i).read = .ok i := by
  have : Instant.ofNanos? i.nanos = some i := Instant.ofNanos?_eq_some.2 rfl
  simp [read, setTo, this, Int.not_lt.2 h]

/-- A clock that is set to an instant before the epoch cannot be read. -/
theorem read_setTo_of_neg {i : Instant} (h : i.nanos < 0) :
    (setTo i).read = .error .outOfRange := by
  simp [read, setTo, h]

end Clock

end DashboardRefresh
