import DashboardRefresh.Text.DecimalDigit
import DashboardRefresh.Text.Reader
import DashboardRefresh.Text.Whitespace
import DashboardRefresh.Time.CivilDate

/-!
# Timestamps

Points in time as documents write them, in the format of RFC 3339. Other than an instant, a
timestamp can lie in a leap second, which goes on from the second before it. Reading allows for
blanks between the parts, for one digit where there should be two, and for other separators.
-/

namespace DashboardRefresh

/-- A Unix second, and nanoseconds from there: a thousand million of them or more in a leap
second. -/
structure Timestamp where
  second : Int
  nanos : Nat
  deriving DecidableEq

namespace Timestamp

def ofInstant (i : Instant) : Timestamp := ⟨i.seconds, i.subsecond⟩

/-- Whether the first timestamp comes before the second. -/
def before (a b : Timestamp) : Bool :=
  a.second < b.second || (a.second == b.second && a.nanos < b.nanos)

/-! ## Writing -/

/-- The year, with four digits, or with a sign where that does not tell it. -/
def yearText (year : Int) : String :=
  if 0 ≤ year ∧ year ≤ 9999 then Text.padded 4 year.toNat
  else (if year < 0 then "-" else "+") ++ Text.padded 4 year.natAbs

/-- A fraction of a second, in as many groups of three digits as it needs. -/
def fractionText (nanos : Nat) : String :=
  if nanos = 0 then ""
  else if nanos % 1000000 = 0 then "." ++ Text.padded 3 (nanos / 1000000)
  else if nanos % 1000 = 0 then "." ++ Text.padded 6 (nanos / 1000)
  else "." ++ Text.padded 9 nanos

/-- The date of a Unix second. -/
def dateText (second : Int) : String :=
  let date := CivilDate.ofDays (second / 86400)
  yearText date.year ++ "-" ++ Text.padded 2 date.month ++ "-" ++ Text.padded 2 date.day

/-- The timestamp in universal time. -/
def text (t : Timestamp) : String :=
  let seconds := (t.second % 86400).toNat
  let second := seconds % 60 + t.nanos / 1000000000
  dateText t.second ++ "T" ++
    Text.padded 2 (seconds / 3600) ++ ":" ++ Text.padded 2 (seconds / 60 % 60) ++ ":" ++
    Text.padded 2 second ++ fractionText (t.nanos % 1000000000) ++ "Z"

/-! ## Reading -/

def skipBlanks (cs : List Char) : List Char := cs.dropWhile Text.isBlank

/-- A number of at most `width` digits, with blanks before it. -/
def readField (width : Nat) : Reader Nat := fun cs =>
  let cs := skipBlanks cs
  let digits := (cs.take width).takeWhile Char.isDigit
  if digits.isEmpty then none else some (Text.decimalValue digits, cs.drop digits.length)

/-- A year: four digits at most, or any number of them after a sign. -/
def readYear : Reader Int := fun cs => do
  let signed (cs : List Char) : Option (Nat × List Char) := do
    let (digits, cs) := Reader.span Char.isDigit cs
    if digits.isEmpty then none else some (Text.decimalValue digits, cs)
  match skipBlanks cs with
  | '-' :: cs =>
    let (n, cs) ← signed cs
    return (-n, cs)
  | '+' :: cs =>
    let (n, cs) ← signed cs
    return (n, cs)
  | cs =>
    let (n, cs) ← readField 4 cs
    return (n, cs)

/-- The rest after a separator, with blanks before it. -/
def expect (c : Char) (cs : List Char) : Option (List Char) := Reader.after? [c] (skipBlanks cs)

/-- The nanoseconds of a fraction, of which all digits after the ninth are dropped. -/
def readFraction : Reader Nat
  | '.' :: cs =>
    let (digits, cs) := Reader.span Char.isDigit cs
    if digits.isEmpty then none
    else
      let kept := digits.take 9
      some (Text.decimalValue kept * Nat.pow 10 (9 - kept.length), cs)
  | cs => some (0, cs)

/-- The minutes by which a clock is ahead of universal time. -/
def readOffset : Reader Int := fun cs => do
  let signed (sign : Int) (cs : List Char) : Option (Int × List Char) := do
    match cs with
    | a :: b :: cs =>
      if a.isDigit ∧ b.isDigit then
        match cs.dropWhile fun c => c == ':' || Text.isBlank c with
        | c :: d :: cs =>
          if c.isDigit ∧ d.isDigit ∧ c ≤ '5' then
            let minutes := Text.decimalValue [a, b] * 60 + Text.decimalValue [c, d]
            if minutes < 1440 then some (sign * minutes, cs) else none
          else none
        | _ => none
      else none
    | _ => none
  match cs with
  | 'Z' :: cs | 'z' :: cs => some (0, cs)
  | '+' :: cs => signed 1 cs
  | '-' :: cs => signed (-1) cs
  | '−' :: cs => signed (-1) cs
  | a :: b :: c :: cs =>
    if [a, b, c].map Char.toUpper = ['U', 'T', 'C'] then some (0, cs) else none
  | _ => none

/-- The timestamp of a date and a time of the day on a clock, if there is such a date in range. -/
def ofParts? (year : Int) (month day hour minute second nanos : Nat) (offset : Int) :
    Option Timestamp := do
  if 23 < hour ∨ 59 < minute ∨ 60 < second then none
  else
    let date ← CivilDate.ofParts? year month day
    let leap := if second = 60 then 1 else 0
    let ofDay : Int := hour * 3600 + minute * 60 + (second - leap : Nat) - offset * 60
    let seconds := date.toDays * 86400 + ofDay
    let earliest := CivilDate.earliestDay
    let latest := CivilDate.latestDay
    if earliest ≤ date.toDays ∧ date.toDays ≤ latest ∧ earliest ≤ seconds / 86400 ∧
        seconds / 86400 ≤ latest then
      some ⟨seconds, nanos + leap * 1000000000⟩
    else none

/-- Read a timestamp. -/
def parse? (text : String) : Option Timestamp := do
  let (year, cs) ← readYear text.toList
  let cs ← expect '-' cs
  let (month, cs) ← readField 2 cs
  let cs ← expect '-' cs
  let (day, cs) ← readField 2 cs
  match cs with
  | c :: cs =>
    if c ≠ 'T' ∧ c ≠ 't' ∧ c ≠ ' ' then none
    else
      let (hour, cs) ← readField 2 cs
      let cs ← expect ':' cs
      let (minute, cs) ← readField 2 cs
      let cs ← expect ':' cs
      let (second, cs) ← readField 2 cs
      let (nanos, cs) ← readFraction cs
      let (offset, cs) ← readOffset (skipBlanks cs)
      if (skipBlanks cs).isEmpty then ofParts? year month day hour minute second nanos offset
      else none
  | [] => none

end Timestamp

end DashboardRefresh
