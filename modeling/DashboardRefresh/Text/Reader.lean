/-!
# Readers

A reader takes what it reads off the front of a text and returns it with the rest, or fails.
-/

namespace DashboardRefresh

abbrev Reader (α : Type) := List Char → Option (α × List Char)

namespace Reader

/-- The rest of `cs` after `expected`, if it begins with it. -/
def after? : List Char → List Char → Option (List Char)
  | [], cs => some cs
  | _ :: _, [] => none
  | e :: es, c :: cs => if e = c then after? es cs else none

/-- The characters that satisfy `p`, as many as there are. -/
def span (p : Char → Bool) (cs : List Char) : List Char × List Char :=
  (cs.takeWhile p, cs.dropWhile p)

/-- Items by some readers in turn, separated by commas up to the character `close`: at least one of
them, and no more than there are readers. An item takes the blanks around it. -/
def commaRow {α : Type} (close : Char) : List (Reader α) → Reader (List α)
  | [], _ => none
  | item :: items, cs => do
    let (a, cs) ← item cs
    match cs with
    | ',' :: cs =>
      let (as, cs) ← commaRow close items cs
      return (a :: as, cs)
    | c :: cs => if c = close then some ([a], cs) else none
    | [] => none

/-- Items separated by commas up to the character `close`, at least one and at most `fuel` of
them. -/
def commaList {α : Type} (item : Reader α) (close : Char) (fuel : Nat) : Reader (List α) :=
  commaRow close (List.replicate fuel item)

end Reader

namespace Text

/-- The value of a hexadecimal digit. -/
def hexDigit? (c : Char) : Option Nat :=
  if '0' ≤ c ∧ c ≤ '9' then some (c.toNat - '0'.toNat)
  else if 'a' ≤ c ∧ c ≤ 'f' then some (c.toNat - 'a'.toNat + 10)
  else if 'A' ≤ c ∧ c ≤ 'F' then some (c.toNat - 'A'.toNat + 10)
  else none

/-- The number that hexadecimal digits write, if all of them are. -/
def hexValue? (cs : List Char) : Option Nat :=
  cs.foldlM (fun n c => (hexDigit? c).map (16 * n + ·)) 0

/-- The character with a code point, if it is one. -/
def charOf? (n : Nat) : Option Char :=
  if h : n.isValidChar then some (Char.ofNatAux n h) else none

/-- `n` in hexadecimal digits, lower case. -/
def hexText (n : Nat) : List Char := Nat.toDigits 16 n

/-- `n` in hexadecimal digits, at least `width` of them. -/
def paddedHex (width n : Nat) : List Char :=
  List.replicate (width - (hexText n).length) '0' ++ hexText n

end Text

end DashboardRefresh
