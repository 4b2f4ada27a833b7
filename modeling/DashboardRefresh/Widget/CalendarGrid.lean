import DashboardRefresh.Refresh.Policy
import DashboardRefresh.Time.CivilDate

/-!
# The calendar grid

Three weeks around a day: the one before, its own and the one after, as days of the month.
-/

namespace DashboardRefresh

/-- A calendar around one day. -/
structure CalendarGrid where
  day : Nat
  weekNumber : Nat
  monthName : String
  year : Int
  /-- The days of the month in the grid, seven to a row. -/
  days : List Nat
  deriving DecidableEq

namespace CalendarGrid

/-- The number of days in the grid. -/
def size : Nat := 21

/-- The days since the week of a date began. -/
def intoWeek (startSunday : Bool) (today : CivilDate) : Nat :=
  if startSunday then today.daysSinceSunday else today.daysSinceMonday

/-- The number of the first day in the grid. -/
def firstDay (startSunday : Bool) (today : CivilDate) : Int :=
  today.toDays - (intoWeek startSunday today + 7 : Nat)

/-- The grid around `today`. It leaves out the days after the last one in range, and cannot be drawn
when it begins before the first one. -/
def around (startSunday : Bool) (today : CivilDate) : Except OutOfRange CalendarGrid :=
  let first := firstDay startSunday today
  if first < CivilDate.earliestDay then .error .outOfRange
  else .ok {
    day := today.day
    weekNumber := today.weekNumber
    monthName := today.monthName
    year := today.year
    days := (List.range size).filterMap fun (j : Nat) =>
      if first + j ≤ CivilDate.latestDay then some (CivilDate.ofDays (first + j)).day else none }

/-- The grid around the day that it is at `now`, on a clock `offset` minutes east. -/
def atInstant (startSunday : Bool) (offset : Int) (now : Instant) :
    Except OutOfRange CalendarGrid :=
  match CivilDate.ofInstant? offset now with
  | some today => around startSunday today
  | none => .error .outOfRange

end CalendarGrid

end DashboardRefresh
