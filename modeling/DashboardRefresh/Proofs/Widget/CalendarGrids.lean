import DashboardRefresh.Proofs.Time.NextDays
import Mathlib.Data.List.Basic

/-!
# Calendar grids

A calendar grid begins with the first day of the week before the one of its date, and goes on day by
day for three weeks. So every column holds one day of the week, the date itself stands in the second
row, and the days of the month count up and begin again after the end of a month, whatever the month
and the year are.
-/

namespace DashboardRefresh.CalendarGrid

open CivilDate

variable (startSunday : Bool)

/-- The day of the week, counted from the first one, goes on with the days. -/
theorem intoWeek_iterate_next (date : CivilDate) (j : Nat) :
    intoWeek startSunday (next^[j] date) = (intoWeek startSunday date + j) % 7 := by
  have hdays := toDays_iterate_next date j
  unfold intoWeek daysSinceSunday daysSinceMonday
  split <;> omega

/-- The first date in the grid around `today`. -/
def firstDate (today : CivilDate) : CivilDate := ofDays (firstDay startSunday today)

variable (today : CivilDate)

@[simp] theorem toDays_firstDate :
    (firstDate startSunday today).toDays = firstDay startSunday today := toDays_ofDays _

/-- The week of the first date begins with it. -/
theorem intoWeek_firstDate : intoWeek startSunday (firstDate startSunday today) = 0 := by
  have hdays := toDays_firstDate startSunday today
  unfold firstDay at hdays
  unfold intoWeek daysSinceSunday daysSinceMonday at *
  split <;> simp_all <;> omega

/-- The date itself comes a week later, and as many days as have passed of its own week. -/
theorem iterate_next_firstDate :
    next^[7 + intoWeek startSunday today] (firstDate startSunday today) = today := by
  apply iterate_next_eq
  rw [toDays_firstDate, firstDay]
  omega

variable {startSunday today}

/-- A grid of which every day is in range lists its days in order. -/
theorem around_eq (hfirst : earliestDay ≤ firstDay startSunday today)
    (hlast : firstDay startSunday today + 20 ≤ latestDay) :
    around startSunday today = .ok {
      day := today.day
      weekNumber := today.weekNumber
      monthName := today.monthName
      year := today.year
      days := (List.range 21).map fun j => (next^[j] (firstDate startSunday today)).day } := by
  have hdays : ((List.range size).filterMap fun (j : Nat) =>
      if firstDay startSunday today + j ≤ latestDay
      then some (ofDays (firstDay startSunday today + j)).day else none) =
      (List.range 21).map fun j => (next^[j] (firstDate startSunday today)).day := by
    rw [← List.filterMap_eq_map]
    apply List.filterMap_congr
    intro j hj
    have hlt : j < 21 := List.mem_range.1 hj
    have hdate : next^[j] (firstDate startSunday today) =
        ofDays (firstDay startSunday today + j) :=
      iterate_next_eq (by rw [toDays_ofDays, toDays_firstDate])
    rw [if_pos (by omega), Function.comp_apply, hdate]
  unfold around
  rw [if_neg (by omega)]
  simp only [hdays]

/-- The grid of three weeks around a date, all of them in range. It begins on the first day of the
week before that of the date, and lists the days of the month from there on: each is greater by one
than the one before, or one if that is the last of its month. All days of a column fall on the same
day of the week, and the date itself stands in the row of its week. The number of the week is that
of the week from Monday to Sunday, in the year of its Thursday. -/
theorem around_lists_days {startSunday : Bool} {today : CivilDate}
    (hfirst : earliestDay ≤ firstDay startSunday today)
    (hlast : firstDay startSunday today + 20 ≤ latestDay) :
    ∃ grid first, around startSunday today = .ok grid ∧
      intoWeek startSunday first = 0 ∧ intoWeek startSunday today < 7 ∧
      next^[7 + intoWeek startSunday today] first = today ∧
      grid.days.length = 21 ∧
      (∀ j < 21, grid.days[j]? = some (next^[j] first).day ∧
        intoWeek startSunday (next^[j] first) = j % 7) ∧
      grid.days[7 + intoWeek startSunday today]? = some today.day ∧
      (∀ j < 20, ∃ day following, grid.days[j]? = some day ∧ grid.days[j + 1]? = some following ∧
        (following = day + 1 ∨ following = 1 ∧
          day = daysInMonth (next^[j] first).year (next^[j] first).month)) ∧
      today.IsInWeek grid.weekNumber := by
  have hweek := intoWeek_le startSunday today
  have hreached := iterate_next_firstDate startSunday today
  have hentry : ∀ j < 21,
      ((List.range 21).map fun j => (next^[j] (firstDate startSunday today)).day)[j]? =
        some (next^[j] (firstDate startSunday today)).day := by
    intro j hj
    rw [List.getElem?_map, List.getElem?_range hj, Option.map_some]
  refine ⟨_, firstDate startSunday today, around_eq hfirst hlast,
    intoWeek_firstDate startSunday today, by omega, hreached, ?_, fun j hj => ⟨hentry j hj, ?_⟩,
    ?_, fun j hj => ⟨_, _, hentry j (by omega), hentry (j + 1) (by omega), ?_⟩,
    today.isInWeek_weekNumber⟩
  · rw [List.length_map, List.length_range]
  · rw [intoWeek_iterate_next, intoWeek_firstDate, Nat.zero_add]
  · rw [hentry _ (by omega), hreached]
  · rw [Function.iterate_succ_apply']
    exact day_next _

/-- The first day of 2021: a Friday, in the last week of the year before. -/
def newYear : CivilDate := ofDays 18628

theorem around_lists_days_newYear :
    newYear.year = 2021 ∧ newYear.month = 1 ∧ newYear.day = 1 ∧
      earliestDay ≤ firstDay false newYear ∧ firstDay false newYear + 20 ≤ latestDay ∧
      ∃ grid, around false newYear = .ok grid ∧
        grid.days = [21, 22, 23, 24, 25, 26, 27, 28, 29, 30, 31, 1, 2, 3, 4, 5, 6, 7, 8, 9, 10] ∧
        grid.days[11]? = some newYear.day ∧ newYear.IsInWeek 53 := by
  have hfirst : earliestDay ≤ firstDay false newYear := by decide
  have hlast : firstDay false newYear + 20 ≤ latestDay := by decide
  have hdrawn : around false newYear = .ok ⟨1, 53, "January", 2021,
      [21, 22, 23, 24, 25, 26, 27, 28, 29, 30, 31, 1, 2, 3, 4, 5, 6, 7, 8, 9, 10]⟩ := by decide
  obtain ⟨grid, _, hgrid, _, _, _, _, _, hday, _, hweek⟩ := around_lists_days hfirst hlast
  obtain rfl := Except.ok.inj (hdrawn.symm.trans hgrid)
  exact ⟨rfl, rfl, rfl, hfirst, hlast, _, hgrid, rfl, hday, hweek⟩

end DashboardRefresh.CalendarGrid
