import DashboardRefresh.Config.Datum
import DashboardRefresh.Number.Word
import DashboardRefresh.Text.DecimalDigit
import DashboardRefresh.Text.Reader

/-!
# TOML numbers, dates and truth values

Readers of the scalars of TOML other than texts. Underscores may stand between two digits. An
integer has 64 bits with its sign. A date or a time becomes a mapping with one entry, its text in
normal form.
-/

namespace DashboardRefresh.Toml

/-! ## Numbers -/

/-- Digits that follow a digit, where an underscore may stand before each. -/
def moreDigits (p : Char → Bool) : List Char → List Char × List Char
  | '_' :: c :: cs =>
    if p c then
      let r := moreDigits p cs
      (c :: r.1, r.2)
    else ([], '_' :: c :: cs)
  | c :: cs =>
    if p c then
      let r := moreDigits p cs
      (c :: r.1, r.2)
    else ([], c :: cs)
  | [] => ([], [])

/-- One digit or more. -/
def readDigits (p : Char → Bool) : Reader (List Char)
  | c :: cs =>
    if p c then
      let r := moreDigits p cs
      some (c :: r.1, r.2)
    else none
  | [] => none

/-- A sign, `true` for the minus, if there is one. -/
def readSign : List Char → Option Bool × List Char
  | '+' :: cs => (some false, cs)
  | '-' :: cs => (some true, cs)
  | cs => (none, cs)

/-- The digits of a decimal integer: a zero alone, or digits that do not begin with one. -/
def readWhole : Reader (List Char)
  | '0' :: cs => some (['0'], cs)
  | cs => readDigits Char.isDigit cs

/-- The integer with an absolute value and a sign, if it has 64 bits. -/
def integer? (negative : Bool) (n : Nat) : Option Datum :=
  if n < Word.signedLimit ∨ (negative ∧ n = Word.signedLimit) then
    some (.integer (if negative then -n else n))
  else none

/-- An integer in one of the bases that are named by a letter after a zero. -/
def readBased (base : Nat) (p : Char → Bool) : Reader Datum := fun cs => do
  let (digits, cs) ← readDigits p cs
  let n ← digits.foldlM (fun n c => (Text.hexDigit? c).map (base * n + ·)) 0
  return (← integer? false n, cs)

def readInteger : Reader Datum
  | '0' :: 'x' :: cs => readBased 16 (fun c => (Text.hexDigit? c).isSome) cs
  | '0' :: 'o' :: cs => readBased 8 (fun c => '0' ≤ c && c ≤ '7') cs
  | '0' :: 'b' :: cs => readBased 2 (fun c => c == '0' || c == '1') cs
  | cs => do
    let (sign, cs) := readSign cs
    let (digits, cs) ← readWhole cs
    return (← integer? (sign.getD false) (Text.decimalValue digits), cs)

/-- The digits after a point. -/
def readFraction : Reader (List Char)
  | '.' :: cs => readDigits Char.isDigit cs
  | _ => none

/-- The exponent of a number. -/
def readExponent : Reader Int
  | c :: cs => do
    if c = 'e' ∨ c = 'E' then
      let (sign, cs) := readSign cs
      let (digits, cs) ← readDigits Char.isDigit cs
      let n : Int := Text.decimalValue digits
      return (if sign = some true then -n else n, cs)
    else none
  | [] => none

/-- An exponent, or zero if there is none. -/
def readOptionalExponent (cs : List Char) : Int × List Char := (readExponent cs).getD (0, cs)

/-- An exponent beyond which every number is zero or out of range. -/
def exponentLimit (digits : Nat) : Int := 400 + digits

/-- The number nearest to a decimal. -/
def nearest (negative : Bool) (whole fraction : List Char) (exponent : Int) : Binary64 :=
  let digits := whole ++ fraction
  let bound := exponentLimit digits.length
  let exponent := max (-bound) (min bound exponent)
  .ofDecimal negative (Text.decimalValue digits) (exponent - fraction.length)

/-- A decimal with a point or an exponent, or the name of infinity or of no number. A decimal above
the range of numbers is refused, one below it is the negative infinity. -/
def readReal : Reader Datum := fun cs => do
  let (sign, cs) := readSign cs
  let negative := sign.getD false
  match cs with
  | 'i' :: 'n' :: 'f' :: cs => return (.real (.infinite negative), cs)
  | 'n' :: 'a' :: 'n' :: cs => return (.real .notANumber, cs)
  | _ =>
    let (whole, cs) ← readWhole cs
    let (fraction, exponent, cs) ← match readFraction cs with
      | some (fraction, cs) => some (fraction, readOptionalExponent cs)
      | none => (readExponent cs).map ([], ·)
    let x := nearest negative whole fraction exponent
    if x = .infinite false then none else some (.real x, cs)

/-! ## Dates and times -/

/-- A number of exactly `n` digits, between two bounds. -/
def readField (n low high : Nat) : Reader Nat := fun cs =>
  let digits := cs.take n
  let value := Text.decimalValue digits
  if digits.length = n ∧ digits.all Char.isDigit ∧ low ≤ value ∧ value ≤ high then
    some (value, cs.drop n)
  else none

/-- The rest after a character, if it comes first. -/
def expect (c : Char) (cs : List Char) : Option (List Char) := Reader.after? [c] cs

/-- The number of days of a month, in a year that has four digits. -/
def monthDays (year month : Nat) : Nat :=
  if month = 2 then
    if year % 4 = 0 ∧ (year % 100 ≠ 0 ∨ year % 400 = 0) then 29 else 28
  else if month = 4 ∨ month = 6 ∨ month = 9 ∨ month = 11 then 30
  else 31

/-- A date, in normal form. -/
def readDate : Reader String := fun cs => do
  let (year, cs) ← readField 4 0 9999 cs
  let cs ← expect '-' cs
  let (month, cs) ← readField 2 1 12 cs
  let cs ← expect '-' cs
  let (day, cs) ← readField 2 1 (monthDays year month) cs
  return (Text.padded 4 year ++ "-" ++ Text.padded 2 month ++ "-" ++ Text.padded 2 day, cs)

/-- The first nine digits of a fraction of a second, without zeros at the end. -/
def fractionText (digits : List Char) : String :=
  let kept := ((digits.take 9).reverse.dropWhile (· == '0')).reverse
  if kept.isEmpty then "" else "." ++ String.ofList kept

/-- A time of the day, in normal form. -/
def readTime : Reader String := fun cs => do
  let (hour, cs) ← readField 2 0 23 cs
  let cs ← expect ':' cs
  let (minute, cs) ← readField 2 0 59 cs
  let cs ← expect ':' cs
  let (second, cs) ← readField 2 0 60 cs
  let (fraction, cs) := match cs with
    | '.' :: rest =>
      let (digits, rest) := Reader.span Char.isDigit rest
      if digits.isEmpty then ([], cs) else (digits, rest)
    | _ => ([], cs)
  return (Text.padded 2 hour ++ ":" ++ Text.padded 2 minute ++ ":" ++ Text.padded 2 second ++
    fractionText fraction, cs)

/-- A distance from universal time, in normal form. -/
def readOffset : Reader String
  | 'Z' :: cs | 'z' :: cs => some ("Z", cs)
  | cs => do
    let (sign, cs) := readSign cs
    let negative ← sign
    let (hour, cs) ← readField 2 0 23 cs
    let cs ← expect ':' cs
    let (minute, cs) ← readField 2 0 59 cs
    let mark := if negative ∧ 0 < hour + minute then "-" else "+"
    return (mark ++ Text.padded 2 hour ++ ":" ++ Text.padded 2 minute, cs)

/-- The time that follows a date, if one does. -/
def readTimeOfDate (cs : List Char) : Option (String × List Char) := do
  match cs with
  | c :: cs =>
    if c = 'T' ∨ c = 't' ∨ c = ' ' then
      let (time, cs) ← readTime cs
      let (offset, cs) := (readOffset cs).getD ("", cs)
      return ("T" ++ time ++ offset, cs)
    else none
  | [] => none

/-- A date, a time or both, in normal form. -/
def readMoment : Reader String := fun cs =>
  match readDate cs with
  | some (date, cs) =>
    let (time, cs) := (readTimeOfDate cs).getD ("", cs)
    some (date ++ time, cs)
  | none => readTime cs

/-- The name of the entry that holds the text of a date or a time. -/
def momentKey : String := "$__toml_private_datetime"

/-! ## Scalars other than texts -/

def readScalar : Reader Datum
  | 't' :: 'r' :: 'u' :: 'e' :: cs => some (.boolean true, cs)
  | 'f' :: 'a' :: 'l' :: 's' :: 'e' :: cs => some (.boolean false, cs)
  | cs =>
    match readMoment cs with
    | some (moment, cs) => some (.mapping [(momentKey, .text moment)], cs)
    | none =>
      match readReal cs with
      | some r => some r
      | none => readInteger cs

end DashboardRefresh.Toml
