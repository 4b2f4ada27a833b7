import DashboardRefresh.Number.Binary64

/-!
# Shortest decimals

The decimal with the fewest digits that reads back as a given number, the nearest one of those.
The reals that round to the number form an interval; on the grid of decimals with `n` digits only
the two neighbours of the number can be the ones to choose, so `n = 1, 2, …` is tried in turn. Both
can be equally near, and then it is a matter of the format which one is written.
-/

namespace DashboardRefresh

/-- The decimal `digits * 10 ^ exponent`. -/
structure Decimal where
  digits : Nat
  exponent : Int
  deriving DecidableEq

/-- Which of two decimals is taken that are equally near to a number. -/
inductive Tie where
  /-- The one with an even last digit. -/
  | toEven
  /-- The greater one. -/
  | up
  deriving DecidableEq

namespace Decimal

/-- The exponent of the leading digit of `num / den`. -/
def magnitude (num den : Nat) : Int :=
  if den ≤ num then ((toString (num / den)).length : Int) - 1
  else
    let places := (toString (den / num)).length
    if den ≤ num * Nat.pow 10 (places - 1) then 1 - (places : Int) else -(places : Int)

/-- Without the zeros at the end, at most `fuel` of them. -/
def strip : Nat → Decimal → Decimal
  | 0, d => d
  | fuel + 1, d =>
    if d.digits ≠ 0 ∧ d.digits % 10 = 0 then strip fuel ⟨d.digits / 10, d.exponent + 1⟩ else d

/-- The interval of the reals that round to a number, in quarters of the unit in its last place:
its lower end, the number, its upper end, and whether the ends belong to it. -/
def interval (mantissa : Nat) (exponent : Int) : Nat × Nat × Nat × Bool :=
  let low := if mantissa = Binary64.fullMantissa ∧ -1074 < exponent then 1 else 2
  (4 * mantissa - low, 4 * mantissa, 4 * mantissa + 2, mantissa % 2 == 0)

/-- The decimal to choose on the grid of the multiples of `10 ^ k`, if one is in the interval. -/
def onGrid? (tie : Tie) (mantissa : Nat) (exponent k : Int) : Option Decimal :=
  let (low, middle, high, closed) := interval mantissa exponent
  -- Both sides in units of `2 ^ (exponent - 2) * 10 ^ k`, free of denominators.
  let grid := Nat.pow 10 k.toNat * Nat.pow 2 (2 - exponent).toNat
  let unit := Nat.pow 2 (exponent - 2).toNat * Nat.pow 10 (-k).toNat
  let inside (d : Nat) : Bool :=
    if closed then low * unit ≤ d * grid && d * grid ≤ high * unit
    else low * unit < d * grid && d * grid < high * unit
  let below := middle * unit / grid
  match inside below, inside (below + 1) with
  | true, false => some ⟨below, k⟩
  | false, true => some ⟨below + 1, k⟩
  | false, false => none
  | true, true =>
    let rest := middle * unit - below * grid
    if 2 * rest < grid ∨ (2 * rest = grid ∧ tie = .toEven ∧ below % 2 = 0) then some ⟨below, k⟩
    else some ⟨below + 1, k⟩

/-- The shortest decimal that reads back as `mantissa * 2 ^ exponent`. -/
def shortest (tie : Tie) (mantissa : Nat) (exponent : Int) : Decimal :=
  if mantissa = 0 then ⟨0, 0⟩
  else
    let q := Binary64.quotient mantissa exponent
    let top := magnitude q.1 q.2
    let found := (List.range 17).findSome? fun (n : Nat) => onGrid? tie mantissa exponent (top - n)
    strip 20 (found.getD ⟨0, 0⟩)

/-- The digits of a decimal as a text. -/
def digitText (d : Decimal) : String := toString d.digits

/-- The exponent of the leading digit, plus one: how many digits stand before the point. -/
def pointPlace (d : Decimal) : Int := d.digitText.length + d.exponent

def zeros (n : Nat) : String := String.ofList (List.replicate n '0')

/-- The decimal without an exponent, with a point only where there are digits after it. -/
def positional (d : Decimal) : String :=
  let text := d.digitText
  let place := d.pointPlace
  if 0 ≤ d.exponent then text ++ zeros d.exponent.toNat
  else if 0 < place then
    (text.take place.toNat).toString ++ "." ++ (text.drop place.toNat).toString
  else "0." ++ zeros (-place).toNat ++ text

/-- An exponent with its sign. -/
def exponentText (e : Int) : String := if e < 0 then toString e else "+" ++ toString e

/-- The decimal with one digit before the point and an exponent. -/
def scientific (d : Decimal) : String :=
  let text := d.digitText
  let rest := (text.drop 1).toString
  (text.take 1).toString ++ (if rest.isEmpty then "" else "." ++ rest) ++ "e" ++
    exponentText (d.pointPlace - 1)

/-- `positional` with at least one digit after the point. -/
def withPoint (d : Decimal) : String :=
  if 0 ≤ d.exponent then d.positional ++ ".0" else d.positional

end Decimal

end DashboardRefresh
