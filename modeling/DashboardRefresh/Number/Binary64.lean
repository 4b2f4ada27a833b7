/-!
# Binary floating-point numbers

The numbers of the format with 53 bits of precision, as exact values. Every operation computes the
exact quotient of two naturals and rounds it to the nearest number, to the even one of two that are
equally near; beyond the largest number it gives infinity.
-/

namespace DashboardRefresh

/-- A number is zero, or `mantissa * 2 ^ exponent` with `mantissa < 2 ^ 53` and the exponent as low
as it can be, at least -1074. -/
inductive Binary64 where
  | finite (negative : Bool) (mantissa : Nat) (exponent : Int)
  | infinite (negative : Bool)
  | notANumber
  deriving DecidableEq

namespace Binary64

/-- The least mantissa of 53 bits. -/
def fullMantissa : Nat := 4503599627370496

/-- The quotient of two naturals rounded to the nearest natural, ties to even. -/
def roundQuotient (num den : Nat) : Nat :=
  let q := num / den
  let r := num % den
  if 2 * r < den ∨ (2 * r = den ∧ q % 2 = 0) then q else q + 1

/-- `num / den` divided by `2 ^ e`, as a quotient. -/
def scaleDown (num den : Nat) (e : Int) : Nat × Nat :=
  if 0 ≤ e then (num, den * Nat.pow 2 e.toNat) else (num * Nat.pow 2 (-e).toNat, den)

/-- The exponent of the unit in the last place of the number nearest to `num / den`. -/
def unitExponent (num den : Nat) : Int :=
  let e : Int := (num.log2 : Int) - den.log2 - 52
  let s := scaleDown num den e
  max (-1074) (if fullMantissa ≤ s.1 / s.2 then e else e - 1)

/-- The number nearest to `num / den`, or its negation. -/
def ofQuotient (negative : Bool) (num den : Nat) : Binary64 :=
  if num = 0 then finite negative 0 (-1074)
  else
    let e := unitExponent num den
    let s := scaleDown num den e
    let m := roundQuotient s.1 s.2
    let (m, e) := if m = 2 * fullMantissa then (fullMantissa, e + 1) else (m, e)
    if 971 < e then infinite negative else finite negative m e

/-- The number nearest to `n`. -/
def ofNat (n : Nat) : Binary64 := ofQuotient false n 1

/-- The number nearest to `n * 10 ^ k`, or its negation. -/
def ofDecimal (negative : Bool) (n : Nat) (k : Int) : Binary64 :=
  if 0 ≤ k then ofQuotient negative (n * Nat.pow 10 k.toNat) 1
  else ofQuotient negative n (Nat.pow 10 (-k).toNat)

/-- The absolute value of a finite number as a quotient. -/
def quotient (mantissa : Nat) (exponent : Int) : Nat × Nat := scaleDown mantissa 1 (-exponent)

/-- The product of two numbers that are not negative. -/
def mul : Binary64 → Binary64 → Binary64
  | finite _ m e, finite _ n f =>
    let a := quotient m e
    let b := quotient n f
    ofQuotient false (a.1 * b.1) (a.2 * b.2)
  | notANumber, _ | _, notANumber => notANumber
  | _, _ => infinite false

/-- The quotient of two numbers of which the first is not negative and the second is positive. -/
def div : Binary64 → Binary64 → Binary64
  | finite _ m e, finite _ n f =>
    let a := quotient m e
    let b := quotient n f
    ofQuotient false (a.1 * b.2) (a.2 * b.1)
  | infinite _, finite .. => infinite false
  | finite .., infinite _ => finite false 0 (-1074)
  | _, _ => notANumber

def neg : Binary64 → Binary64
  | finite s m e => finite (!s) m e
  | infinite s => infinite (!s)
  | notANumber => notANumber

def isFinite : Binary64 → Bool
  | finite .. => true
  | _ => false

def isZero : Binary64 → Bool
  | finite _ 0 _ => true
  | _ => false

end Binary64

end DashboardRefresh
