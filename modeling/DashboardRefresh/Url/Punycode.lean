import DashboardRefresh.Text.Reader

/-!
# Punycode

Labels of host names in ASCII. The characters that are not ASCII are sorted, and each is written as
the distance to the one before it, counting every place where it could stand, in digits of base 36
whose thresholds adapt to the distances seen so far.
-/

namespace DashboardRefresh.Punycode

def isAscii (c : Char) : Bool := c.toNat < 128

/-- The least digit that ends a number, at the place that `k` stands for. -/
def threshold (k bias : Nat) : Nat := if k ≤ bias then 1 else min 26 (k - bias)

/-- The bias after a distance. -/
def adapt (delta points : Nat) (first : Bool) : Nat :=
  let delta := if first then delta / 700 else delta / 2
  scale (delta + delta / points) 0
where
  /-- Distances are scaled down until they are small. -/
  scale (delta k : Nat) : Nat :=
    if 455 < delta then scale (delta / 35) (k + 36) else k + 36 * delta / (delta + 38)
  termination_by delta

def digitChar (d : Nat) : Char := if d < 26 then Char.ofNat (97 + d) else Char.ofNat (22 + d)

def digitOf? (c : Char) : Option Nat :=
  if c.isLower then some (c.toNat - 97)
  else if c.isUpper then some (c.toNat - 65)
  else if c.isDigit then some (c.toNat - 22)
  else none

/-- The digits of a distance, at most `fuel` of them. -/
def digits (bias : Nat) : (fuel k q : Nat) → List Char
  | 0, _, _ => []
  | fuel + 1, k, q =>
    let t := threshold k bias
    if q < t then [digitChar q]
    else digitChar (t + (q - t) % (36 - t)) :: digits bias fuel (k + 36) ((q - t) / (36 - t))

/-- The place that has been reached in writing a label. -/
structure Writing where
  /-- The digits so far. -/
  written : List Char
  /-- The code point that comes next. -/
  next : Nat
  delta : Nat
  bias : Nat
  /-- How many characters have been written. -/
  handled : Nat

/-- Pass a character of the label while those with the code point `n` are written. -/
def passChar (basic n : Nat) (w : Writing) (c : Char) : Writing :=
  if c.toNat < n then { w with delta := w.delta + 1 }
  else if c.toNat = n then
    { w with
      written := w.written ++ digits w.bias (w.delta + 1) 36 w.delta
      delta := 0
      bias := adapt w.delta (w.handled + 1) (w.handled == basic)
      handled := w.handled + 1 }
  else w

/-- Write the characters with the code point `n`. -/
def passPoint (label : List Char) (basic : Nat) (w : Writing) (n : Nat) : Writing :=
  let w := { w with delta := w.delta + (n - w.next) * (w.handled + 1) }
  let w := label.foldl (passChar basic n) w
  { w with delta := w.delta + 1, next := n + 1 }

/-- Write a label in ASCII. -/
def encode (label : List Char) : List Char :=
  let basic := label.filter isAscii
  let points := ((label.filter (!isAscii ·)).map Char.toNat).eraseDups.mergeSort
  let w := points.foldl (passPoint label basic.length) ⟨[], 128, 0, 72, basic.length⟩
  basic ++ (if basic.isEmpty then [] else ['-']) ++ w.written

/-- The place that has been reached in reading a label. -/
structure Reading where
  /-- The characters so far. -/
  label : List Char
  point : Nat
  /-- Where the character before was put, plus one. -/
  start : Nat
  bias : Nat
  /-- The distance read so far, the weight of its next digit and its place. -/
  place : Nat
  weight : Nat
  k : Nat

/-- Distances and weights fit in 32 bits. -/
def wordLimit : Nat := 4294967296

/-- Read one digit. -/
def Reading.digit (r : Reading) (d : Nat) : Option Reading :=
  let place := r.place + d * r.weight
  let t := threshold r.k r.bias
  let weight := r.weight * (36 - t)
  if wordLimit ≤ place then none
  else if t ≤ d then
    if wordLimit ≤ weight then none else some { r with place, weight, k := r.k + 36 }
  else do
    let length := r.label.length + 1
    let point := r.point + place / length
    let c ← Text.charOf? point
    let i := place % length
    return {
      label := r.label.take i ++ c :: r.label.drop i
      point
      start := i + 1
      bias := adapt (place - r.start) length (r.start == 0)
      place := i + 1
      weight := 1
      k := 36 }

/-- Read a label from ASCII. A hyphen at its beginning is no digit and ends nothing. -/
def decode? (text : List Char) : Option (List Char) := do
  let reversed := text.reverse
  let tail := (reversed.takeWhile (· ≠ '-')).reverse
  let basic := (reversed.dropWhile (· ≠ '-')).tail.reverse
  let digits := if basic.isEmpty then text else tail
  let r ← digits.foldlM (fun (r : Reading) c => do r.digit (← digitOf? c))
    ⟨basic, 128, 0, 72, 0, 1, 36⟩
  if r.k = 36 then some r.label else none

end DashboardRefresh.Punycode
