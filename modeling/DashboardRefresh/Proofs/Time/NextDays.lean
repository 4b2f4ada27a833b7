import DashboardRefresh.Proofs.Time.CivilDates
import Mathlib.Logic.Function.Iterate

/-!
# The day after a date

The day after a date is the next one of its month, the first one of the next month or the first one
of the next year. Its number is the next number. As every date is the one with its number, the dates
with the numbers that follow are those that are reached day by day. So the weeks of the calendar,
which are counted by numbers, are runs of seven days that follow each other.
-/

namespace DashboardRefresh

/-! ## Days of a year -/

theorem totalDays_append (before after : List Nat) :
    totalDays (before ++ after) = totalDays before + totalDays after := by
  induction before with
  | nil => exact (Nat.zero_add _).symm
  | cons length rest ih => rw [List.cons_append, totalDays, totalDays, ih, Nat.add_assoc]

theorem totalDays_take_succ {lengths : List Nat} {k : Nat} (hk : k < lengths.length) :
    totalDays (lengths.take (k + 1)) = totalDays (lengths.take k) + lengths[k] := by
  rw [List.take_succ_eq_append_getElem hk, totalDays_append]
  rfl

theorem totalDays_take_le (lengths : List Nat) (k : Nat) :
    totalDays (lengths.take k) ≤ totalDays lengths := by
  calc
    totalDays (lengths.take k) ≤ totalDays (lengths.take k) + totalDays (lengths.drop k) :=
      Nat.le_add_right _ _
    _ = totalDays lengths := by rw [← totalDays_append, List.take_append_drop]

/-- The days before a month and those into it locate the month and the day. -/
theorem locateDay_totalDays_take {lengths : List Nat} {k r : Nat} (hk : k < lengths.length)
    (hr : r < lengths[k]) :
    locateDay lengths (totalDays (lengths.take k) + r) = (k + 1, r + 1) := by
  induction lengths generalizing k with
  | nil => simp at hk
  | cons length rest ih =>
    cases k with
    | zero =>
      have hlt : r < length := hr
      simp [locateDay, totalDays, hlt]
    | succ k =>
      have hrest : k < rest.length := Nat.lt_of_succ_lt_succ hk
      have hlocated := ih hrest hr
      have hge : ¬ length + totalDays (rest.take k) + r < length := by omega
      have hsub : length + totalDays (rest.take k) + r - length = totalDays (rest.take k) + r := by
        omega
      rw [List.take_succ_cons, totalDays, locateDay, if_neg hge, hsub, hlocated]

theorem daysBeforeYear_mono {a b : Int} (h : a ≤ b) : daysBeforeYear a ≤ daysBeforeYear b := by
  unfold daysBeforeYear
  omega

/-- The year of a day is the only one in which it lies. -/
theorem yearOfDay_eq {n year : Int} (hfirst : daysBeforeYear year ≤ n)
    (hlast : n < daysBeforeYear (year + 1)) : yearOfDay n = year := by
  have hle := daysBeforeYear_yearOfDay_le n
  have hlt := lt_daysBeforeYear_yearOfDay_succ n
  rcases Int.lt_trichotomy (yearOfDay n) year with hbefore | heq | hafter
  · have hmono := daysBeforeYear_mono (Int.add_one_le_of_lt hbefore)
    omega
  · exact heq
  · have hmono := daysBeforeYear_mono (Int.add_one_le_of_lt hafter)
    omega

theorem length_monthLengths (leap : Bool) : (monthLengths leap).length = 12 := rfl

theorem one_le_daysInMonth {year : Int} {month : Nat} (hfirst : 1 ≤ month) (hlast : month ≤ 12) :
    1 ≤ daysInMonth year month := by
  have hmonths (leap : Bool) : ∀ length ∈ monthLengths leap, 1 ≤ length := by
    cases leap <;> decide
  have hmonth : month - 1 < (monthLengths (isLeapYear year)).length := by
    rw [length_monthLengths]
    omega
  rw [daysInMonth, if_neg (by omega), List.getElem?_eq_getElem hmonth]
  exact hmonths _ _ (List.getElem_mem hmonth)

namespace CivilDate

variable (date : CivilDate)

theorem one_le_month : 1 ≤ date.month := by
  by_contra hmonth
  have hpos := date.day_pos
  have hle := date.day_le
  rw [daysInMonth, if_pos (by omega)] at hle
  omega

theorem month_le : date.month ≤ 12 := by
  by_contra hmonth
  have hpos := date.day_pos
  have hle := date.day_le
  have hbeyond : (monthLengths (isLeapYear date.year)).length ≤ date.month - 1 := by
    rw [length_monthLengths]
    omega
  rw [daysInMonth, List.getElem?_eq_none hbeyond] at hle
  split at hle <;> simp at hle <;> omega

theorem month_sub_one_lt : date.month - 1 < (monthLengths (isLeapYear date.year)).length := by
  have hfirst := date.one_le_month
  have hlast := date.month_le
  rw [length_monthLengths]
  omega

theorem daysInMonth_eq (hmonth : date.month - 1 < (monthLengths (isLeapYear date.year)).length) :
    daysInMonth date.year date.month = (monthLengths (isLeapYear date.year))[date.month - 1] := by
  have hfirst := date.one_le_month
  rw [daysInMonth, if_neg (by omega), List.getElem?_eq_getElem hmonth]
  rfl

/-- The months up to that of a date have as many days as its year up to the end of the month. -/
theorem dayOfYear_add_rest : date.dayOfYear + (daysInMonth date.year date.month - date.day) + 1 =
    totalDays ((monthLengths (isLeapYear date.year)).take date.month) := by
  have hpos := date.day_pos
  have hle := date.day_le
  have htake := totalDays_take_succ date.month_sub_one_lt
  rw [Nat.sub_add_cancel date.one_le_month, ← date.daysInMonth_eq date.month_sub_one_lt] at htake
  rw [htake, dayOfYear]
  omega

theorem dayOfYear_lt : date.dayOfYear < totalDays (monthLengths (isLeapYear date.year)) := by
  have hrest := date.dayOfYear_add_rest
  have htake := totalDays_take_le (monthLengths (isLeapYear date.year)) date.month
  omega

/-- Dates that are given by their parts are told apart by their numbers. -/
@[simp] theorem ofDays_toDays : ofDays date.toDays = date := by
  have hlt := date.dayOfYear_lt
  have hsucc := daysBeforeYear_succ date.year
  have hcount : date.toDays + epochOffset = daysBeforeYear date.year + date.dayOfYear := by
    rw [toDays]
    omega
  have hyear : yearOfDay (date.toDays + epochOffset) = date.year :=
    yearOfDay_eq (by omega) (by omega)
  have hwithin : dayWithinYear (date.toDays + epochOffset) = date.dayOfYear := by
    rw [dayWithinYear, hyear]
    omega
  have hmonth := date.month_sub_one_lt
  have hday : date.day - 1 < (monthLengths (isLeapYear date.year))[date.month - 1] := by
    have hpos := date.day_pos
    have hle := date.day_le
    rw [date.daysInMonth_eq hmonth] at hle
    omega
  have hlocated := locateDay_totalDays_take hmonth hday
  rw [Nat.sub_add_cancel date.one_le_month, Nat.sub_add_cancel date.day_pos] at hlocated
  unfold ofDays ofDayCount
  ext
  · exact hyear
  · simp only [hyear, hwithin, dayOfYear, hlocated]
  · simp only [hyear, hwithin, dayOfYear, hlocated]

/-! ## The next day -/

/-- The day after a date. -/
def next : CivilDate :=
  if hday : date.day < daysInMonth date.year date.month then
    ⟨date.year, date.month, date.day + 1, by omega, hday⟩
  else if hmonth : date.month < 12 then
    ⟨date.year, date.month + 1, 1, Nat.le_refl 1, one_le_daysInMonth (by omega) hmonth⟩
  else ⟨date.year + 1, 1, 1, Nat.le_refl 1, one_le_daysInMonth (Nat.le_refl 1) (by omega)⟩

/-- The next day of the month follows a day, or the first after the last. -/
theorem day_next : date.next.day = date.day + 1 ∨
    date.next.day = 1 ∧ date.day = daysInMonth date.year date.month := by
  have hle := date.day_le
  unfold next
  split
  · exact .inl rfl
  · rename_i hday
    have hlast : date.day = daysInMonth date.year date.month := by omega
    split
    · exact .inr ⟨rfl, hlast⟩
    · exact .inr ⟨rfl, hlast⟩

theorem toDays_next : date.next.toDays = date.toDays + 1 := by
  have hpos := date.day_pos
  have hle := date.day_le
  have hrest := date.dayOfYear_add_rest
  unfold next
  split
  · simp only [toDays, dayOfYear]
    omega
  · rename_i hday
    split
    · rename_i hmonth
      simp only [toDays]
      rw [dayOfYear]
      simp only [Nat.add_sub_cancel]
      omega
    · rename_i hmonth
      have hall : (monthLengths (isLeapYear date.year)).take date.month =
          monthLengths (isLeapYear date.year) := by
        apply List.take_of_length_le
        rw [length_monthLengths]
        omega
      have hsucc := daysBeforeYear_succ date.year
      rw [hall] at hrest
      simp only [toDays]
      rw [dayOfYear]
      simp only [Nat.sub_self, List.take_zero, totalDays]
      omega

/-- The date that is `j` days after another one has the number that is greater by `j`. -/
theorem toDays_iterate_next (j : Nat) : (next^[j] date).toDays = date.toDays + j := by
  induction j with
  | zero => simp
  | succ j ih =>
    rw [Function.iterate_succ_apply', toDays_next, ih]
    omega

/-- A date with a number that is greater by `j` is reached in `j` days. -/
theorem iterate_next_eq {date other : CivilDate} {j : Nat} (h : other.toDays = date.toDays + j) :
    next^[j] date = other := by
  rw [← ofDays_toDays (next^[j] date), toDays_iterate_next, ← h, ofDays_toDays]

/-! ## Weeks -/

/-- The week from Monday to Sunday that `date` lies in has the number `week` in the year of its
Thursday. The first week of a year is the one with its first Thursday. -/
def IsInWeek (date : CivilDate) (week : Nat) : Prop :=
  ∃ monday first : CivilDate, monday.daysSinceMonday = 0 ∧ (∃ k < 7, next^[k] monday = date) ∧
    first.year = (next^[3] monday).year ∧ first.month = 1 ∧ first.day ≤ 7 ∧
    first.daysSinceMonday = 3 ∧ 1 ≤ week ∧ next^[7 * (week - 1)] first = next^[3] monday

theorem isInWeek_weekNumber : date.IsInWeek date.weekNumber := by
  let monday := ofDays (date.toDays - date.daysSinceMonday)
  let thursday := ofDays (date.toDays - date.daysSinceMonday + 3)
  let r := thursday.dayOfYear
  let first : CivilDate :=
    ⟨thursday.year, 1, r % 7 + 1, by omega, by
      have hmonth : daysInMonth thursday.year 1 = 31 := rfl
      omega⟩
  have hmonday : monday.toDays = date.toDays - date.daysSinceMonday := toDays_ofDays _
  have hthursday : thursday.toDays = date.toDays - date.daysSinceMonday + 3 := toDays_ofDays _
  have hreached : next^[3] monday = thursday := iterate_next_eq (by rw [hthursday, hmonday]; rfl)
  have hweek : date.weekNumber = r / 7 + 1 := rfl
  have hfirst : first.toDays + 7 * (r / 7 : Nat) = thursday.toDays := by
    have hcount : first.dayOfYear = r % 7 := by
      simp [dayOfYear, first, totalDays]
    have hyear : first.year = thursday.year := rfl
    rw [toDays, toDays, hcount, hyear]
    omega
  refine ⟨monday, first, ?_, ⟨date.daysSinceMonday, ?_, ?_⟩, ?_, rfl, ?_, ?_, ?_, ?_⟩
  · rw [daysSinceMonday, hmonday]
    unfold daysSinceMonday
    omega
  · unfold daysSinceMonday
    omega
  · apply iterate_next_eq
    omega
  · rw [hreached]
  · show r % 7 + 1 ≤ 7
    omega
  · unfold daysSinceMonday at hthursday ⊢
    omega
  · omega
  · rw [hreached, hweek, Nat.add_sub_cancel]
    apply iterate_next_eq
    omega

end CivilDate

end DashboardRefresh
