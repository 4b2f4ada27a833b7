/-!
# Ranges of characters

Properties of characters, given by the ranges of code points that have them, and characters that go
with others in runs.
-/

namespace DashboardRefresh.Text

/-- Whether a character lies in one of some ranges, which are given by their ends. -/
def inRanges (ranges : List (Nat × Nat)) (c : Char) : Bool :=
  ranges.any fun r => r.1 ≤ c.toNat && c.toNat ≤ r.2

/-- Characters that go with others as far apart as they are: every `step`-th from `first` to `last`,
where `first` goes with `image`. -/
structure CharRun where
  first : Nat
  last : Nat
  step : Nat
  image : Nat

namespace CharRun

/-- Whether a run holds a code point. -/
def holds (r : CharRun) (n : Nat) : Bool :=
  r.first ≤ n && n ≤ r.last && (n - r.first) % r.step == 0

/-- What a character goes with in the first of some runs that holds it. -/
def image? (runs : List CharRun) (c : Char) : Option Char :=
  (runs.find? (·.holds c.toNat)).map fun r => Char.ofNat (r.image + (c.toNat - r.first))

end CharRun

end DashboardRefresh.Text
