import DashboardRefresh.Number.Word
import DashboardRefresh.Text.DecimalDigit

/-!
# Durations

A duration is a length of time in whole seconds below 2^64 and nanoseconds. Configuration files
write durations of whole seconds as a number and a unit letter, as in `30s`, `5m`, `2h` or `1d`.
-/

namespace DashboardRefresh

/-- A length of time. -/
@[ext] structure Duration where
  seconds : Nat
  nanos : Nat
  seconds_lt : seconds < Word.unsignedLimit
  nanos_lt : nanos < 1000000000
  deriving DecidableEq

namespace Duration

/-- The duration of some whole seconds. -/
def ofSeconds (n : UInt64) : Duration := ⟨n.toNat, 0, n.toNat_lt, by decide⟩

/-- The duration of `n` whole seconds, if it is one. -/
def ofSeconds? (n : Nat) : Option Duration :=
  if h : n < Word.unsignedLimit then some ⟨n, 0, h, by decide⟩ else none

/-- The duration in nanoseconds. -/
def toNanos (d : Duration) : Nat := d.seconds * 1000000000 + d.nanos

def isZero (d : Duration) : Bool := d.seconds == 0 && d.nanos == 0

/-- The whole milliseconds in a duration. -/
def toMillis (d : Duration) : Nat := d.toNanos / 1000000

/-- Why a text is not a duration. -/
inductive TextError where
  /-- Not a run of decimal digits followed by a unit letter. -/
  | malformed (text : String)
  /-- The digits are not all ASCII, or the number is 2^64 or more. -/
  | badNumber (digits : String)
  /-- The number of seconds is 2^64 or more. -/
  | tooLarge (text : String)
  deriving DecidableEq

def TextError.message : TextError → String
  | .malformed text => "invalid duration format for value `" ++ text ++ "`"
  | .badNumber digits => "invalid duration value: " ++ digits
  | .tooLarge text => "duration `" ++ text ++ "` is too large"

/-- The seconds in one of the unit that a letter names. -/
def unitSeconds? : Char → Option Nat
  | 's' => some 1
  | 'm' => some 60
  | 'h' => some 3600
  | 'd' => some 86400
  | _ => none

/-- Read a number below 2^64 written in ASCII digits. -/
def number? (digits : List Char) : Option Nat :=
  if digits.all Char.isDigit ∧ Text.decimalValue digits < Word.unsignedLimit then
    some (Text.decimalValue digits)
  else none

/-- The digits and the unit of a text of the form `<digits><unit>`, digits of any script. -/
def shape? (text : List Char) : Option (List Char × Nat) :=
  match text.getLast?.bind unitSeconds? with
  | some unit =>
    if text.dropLast ≠ [] ∧ text.dropLast.all Text.isDecimalDigit then
      some (text.dropLast, unit)
    else none
  | none => none

/-- Read a duration as configuration files write it. -/
def parse (text : String) : Except TextError Duration :=
  match shape? text.toList with
  | none => .error (.malformed text)
  | some (digits, unit) =>
    match number? digits with
    | none => .error (.badNumber (String.ofList digits))
    | some n =>
      match ofSeconds? (n * unit) with
      | none => .error (.tooLarge text)
      | some d => .ok d

end Duration

end DashboardRefresh
