import DashboardRefresh.Time.Instant

/-!
# Civil dates

Dates of the Gregorian calendar, extended to all years, and their numbering by days since the
first of January 1970. `CivilDate.ofDays` and `CivilDate.toDays` go back and forth between the two.
-/

namespace DashboardRefresh

/-- Whether `year` has a 29th of February. -/
def isLeapYear (year : Int) : Bool :=
  year % 4 == 0 && (year % 100 != 0 || year % 400 == 0)

/-- The lengths of the twelve months of a year. -/
def monthLengths (leap : Bool) : List Nat :=
  [31, if leap then 29 else 28, 31, 30, 31, 30, 31, 31, 30, 31, 30, 31]

/-- The number of days in some months. -/
def totalDays : List Nat → Nat
  | [] => 0
  | length :: rest => length + totalDays rest

/-- The number of days in the month of a year, zero if there is no such month. -/
def daysInMonth (year : Int) (month : Nat) : Nat :=
  if month = 0 then 0 else (monthLengths (isLeapYear year))[month - 1]?.getD 0

/-- A day given by year, month and day of the month. -/
@[ext] structure CivilDate where
  year : Int
  month : Nat
  day : Nat
  day_pos : 1 ≤ day
  day_le : day ≤ daysInMonth year month
  deriving DecidableEq

/-- The days from the first of January of the year zero to that of `year`. -/
def daysBeforeYear (year : Int) : Int :=
  365 * year + (year + 3) / 4 - (year + 99) / 100 + (year + 399) / 400

/-- The year of the day `n` days after the first of January of the year zero: the mean length of a
year gives it up to one. -/
def yearOfDay (n : Int) : Int :=
  let guess := 400 * n / 146097
  if n < daysBeforeYear guess then guess - 1
  else if daysBeforeYear (guess + 1) ≤ n then guess + 1
  else guess

theorem daysBeforeYear_yearOfDay_le (n : Int) : daysBeforeYear (yearOfDay n) ≤ n := by
  unfold yearOfDay
  dsimp only
  split
  · unfold daysBeforeYear at *; omega
  · split <;> omega

theorem lt_daysBeforeYear_yearOfDay_succ (n : Int) : n < daysBeforeYear (yearOfDay n + 1) := by
  unfold yearOfDay
  dsimp only
  split
  · rename_i h; simpa using h
  · split
    · unfold daysBeforeYear at *; omega
    · omega

theorem daysBeforeYear_succ (year : Int) :
    daysBeforeYear (year + 1) =
      daysBeforeYear year + totalDays (monthLengths (isLeapYear year)) := by
  have h : totalDays (monthLengths (isLeapYear year)) = if isLeapYear year then 366 else 365 := by
    cases isLeapYear year <;> rfl
  rw [h]
  simp only [isLeapYear, daysBeforeYear, Bool.and_eq_true, Bool.or_eq_true, beq_iff_eq, bne_iff_ne]
  split <;> omega

/-- The number of the day `n` within its year, counted from zero. -/
def dayWithinYear (n : Int) : Nat := (n - daysBeforeYear (yearOfDay n)).toNat

theorem dayWithinYear_lt (n : Int) :
    dayWithinYear n < totalDays (monthLengths (isLeapYear (yearOfDay n))) := by
  have h1 := daysBeforeYear_yearOfDay_le n
  have h2 := lt_daysBeforeYear_yearOfDay_succ n
  rw [daysBeforeYear_succ] at h2
  unfold dayWithinYear
  omega

/-- The month and the day of the month of day `r` of a year, counted from zero, given the lengths
of the months. -/
def locateDay : List Nat → Nat → Nat × Nat
  | [], r => (1, r + 1)
  | length :: rest, r =>
    if r < length then (1, r + 1)
    else ((locateDay rest (r - length)).1 + 1, (locateDay rest (r - length)).2)

theorem one_le_locateDay_fst (lengths : List Nat) (r : Nat) : 1 ≤ (locateDay lengths r).1 := by
  induction lengths generalizing r with
  | nil => simp [locateDay]
  | cons length rest ih => rw [locateDay]; split <;> simp

theorem one_le_locateDay_snd (lengths : List Nat) (r : Nat) : 1 ≤ (locateDay lengths r).2 := by
  induction lengths generalizing r with
  | nil => simp [locateDay]
  | cons length rest ih => rw [locateDay]; split <;> simp [ih]

theorem locateDay_snd_le {lengths : List Nat} {r : Nat} (h : r < totalDays lengths) :
    (locateDay lengths r).2 ≤ lengths[(locateDay lengths r).1 - 1]?.getD 0 := by
  induction lengths generalizing r with
  | nil => simp [totalDays] at h
  | cons length rest ih =>
    rw [locateDay]
    split
    · simp; omega
    · rename_i hr
      have hrest : r - length < totalDays rest := by rw [totalDays] at h; omega
      have hpos := one_le_locateDay_fst rest (r - length)
      obtain ⟨k, hk⟩ := Nat.exists_eq_add_of_le' hpos
      have := ih hrest
      rw [hk] at this ⊢
      simpa using this

namespace CivilDate

/-- The days from the first of January of the year zero to that of the year 1970. -/
def epochOffset : Int := 719528

/-- The first and the last day that an instant can lie in, by their numbers. -/
def earliestDay : Int := Instant.earliestNanos / 86400000000000

def latestDay : Int := Instant.latestNanos / 86400000000000

/-- The date with the given parts, if there is one. -/
def ofParts? (year : Int) (month day : Nat) : Option CivilDate :=
  if h : 1 ≤ day ∧ day ≤ daysInMonth year month then some ⟨year, month, day, h.1, h.2⟩ else none

/-- The day of the year, counted from zero. -/
def dayOfYear (date : CivilDate) : Nat :=
  totalDays ((monthLengths (isLeapYear date.year)).take (date.month - 1)) + (date.day - 1)

/-- The number of a date: days since the first of January 1970. -/
def toDays (date : CivilDate) : Int :=
  daysBeforeYear date.year + date.dayOfYear - epochOffset

/-- The date of the day `n` days after the first of January of the year zero. -/
def ofDayCount (n : Int) : CivilDate where
  year := yearOfDay n
  month := (locateDay (monthLengths (isLeapYear (yearOfDay n))) (dayWithinYear n)).1
  day := (locateDay (monthLengths (isLeapYear (yearOfDay n))) (dayWithinYear n)).2
  day_pos := one_le_locateDay_snd _ _
  day_le := by
    have := one_le_locateDay_fst (monthLengths (isLeapYear (yearOfDay n))) (dayWithinYear n)
    rw [daysInMonth, if_neg (by omega)]
    exact locateDay_snd_le (dayWithinYear_lt n)

/-- The date with a number. -/
def ofDays (n : Int) : CivilDate := ofDayCount (n + epochOffset)

/-- The days since the last Monday, zero on a Monday. The first of January 1970 was a Thursday. -/
def daysSinceMonday (date : CivilDate) : Nat := ((date.toDays + 3) % 7).toNat

/-- The days since the last Sunday, zero on a Sunday. -/
def daysSinceSunday (date : CivilDate) : Nat := ((date.toDays + 4) % 7).toNat

/-- The number of the week from Monday to Sunday that the date lies in, counted in the year of its
Thursday. -/
def weekNumber (date : CivilDate) : Nat :=
  (ofDays (date.toDays - date.daysSinceMonday + 3)).dayOfYear / 7 + 1

/-- The English name of the month. -/
def monthName (date : CivilDate) : String :=
  ["January", "February", "March", "April", "May", "June", "July", "August", "September",
    "October", "November", "December"][date.month - 1]?.getD ""

/-- The date that an instant has on a clock `offset` minutes east of universal time, unless it is
out of range. -/
def ofInstant? (offset : Int) (i : Instant) : Option CivilDate :=
  let day := (i.nanos + offset * 60000000000) / 86400000000000
  if earliestDay ≤ day ∧ day ≤ latestDay then some (ofDays day) else none

end CivilDate

end DashboardRefresh
