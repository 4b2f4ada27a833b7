import DashboardRefresh.Proofs.Time.Margin
import DashboardRefresh.Time.CivilDate
import DashboardRefresh.Widget.CalendarGrid

/-!
# Dates and their numbers

The date with a number has that number. So a calendar grid can be drawn around every day that lies
fifteen days inside the range of instants, whatever the local time is there.
-/

namespace DashboardRefresh

/-- A day of a year, located by month and day of the month, lies as many days into the year as the
months before it have, and the days of its own month. -/
theorem totalDays_take_locateDay {lengths : List Nat} {r : Nat} (h : r < totalDays lengths) :
    totalDays (lengths.take ((locateDay lengths r).1 - 1)) + ((locateDay lengths r).2 - 1) = r := by
  induction lengths generalizing r with
  | nil => simp [totalDays] at h
  | cons length rest ih =>
    rw [locateDay]
    split
    · simp [totalDays]
    · rename_i hr
      have hrest : r - length < totalDays rest := by
        rw [totalDays] at h
        omega
      have hlocated := ih hrest
      obtain ⟨k, hk⟩ := Nat.exists_eq_add_of_le' (one_le_locateDay_fst rest (r - length))
      rw [hk] at hlocated ⊢
      simp only [Nat.add_sub_cancel, List.take_succ_cons, totalDays] at hlocated ⊢
      omega

namespace CivilDate

theorem dayOfYear_ofDayCount (n : Int) : (ofDayCount n).dayOfYear = dayWithinYear n :=
  totalDays_take_locateDay (dayWithinYear_lt n)

@[simp] theorem toDays_ofDays (n : Int) : (ofDays n).toDays = n := by
  have hle := daysBeforeYear_yearOfDay_le (n + epochOffset)
  have hyear : (ofDays n).year = yearOfDay (n + epochOffset) := rfl
  have hday : (ofDays n).dayOfYear = dayWithinYear (n + epochOffset) :=
    dayOfYear_ofDayCount (n + epochOffset)
  rw [toDays, hyear, hday, dayWithinYear]
  omega

end CivilDate

/-- A clock is less than a day ahead of universal time, or behind it. -/
def IsZoneOffset (offset : Int) : Prop := -1440 < offset ∧ offset < 1440

instance (offset : Int) : Decidable (IsZoneOffset offset) := inferInstanceAs (Decidable (_ ∧ _))

namespace CalendarGrid

theorem intoWeek_le (startSunday : Bool) (today : CivilDate) : intoWeek startSunday today ≤ 6 := by
  unfold intoWeek CivilDate.daysSinceSunday CivilDate.daysSinceMonday
  split <;> omega

/-- The grid around the day of an inner instant can be drawn. -/
theorem exists_atInstant (startSunday : Bool) {offset : Int} {now : Instant} (hnow : now.IsInner)
    (hoffset : IsZoneOffset offset) :
    ∃ grid, atInstant startSunday offset now = .ok grid := by
  obtain ⟨hearliest, hlatest⟩ := hnow
  obtain ⟨hwest, heast⟩ := hoffset
  have hmargin : Instant.margin = 15 * 86400000000000 := rfl
  have hfirst : Instant.earliestNanos = CivilDate.earliestDay * 86400000000000 := by decide
  have hlast : Instant.latestNanos = CivilDate.latestDay * 86400000000000 + 86399999999999 := by
    decide
  let day := (now.nanos + offset * 60000000000) / 86400000000000
  have hlow : CivilDate.earliestDay + 13 ≤ day := by omega
  have hhigh : day ≤ CivilDate.latestDay := by omega
  have htoday : CivilDate.ofInstant? offset now = some (CivilDate.ofDays day) :=
    if_pos ⟨by omega, hhigh⟩
  have hweek := intoWeek_le startSunday (CivilDate.ofDays day)
  have hstart : ¬ firstDay startSunday (CivilDate.ofDays day) < CivilDate.earliestDay := by
    rw [firstDay, CivilDate.toDays_ofDays]
    omega
  unfold atInstant
  rw [htoday]
  exact ⟨_, if_neg hstart⟩

end CalendarGrid

end DashboardRefresh
