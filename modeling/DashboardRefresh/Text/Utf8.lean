import DashboardRefresh.Text.Reader

/-!
# Reading bytes as text

The text of any bytes. A byte order mark at the front says whether they are UTF-8 or one of the two
orders of UTF-16, and is dropped; without it they are UTF-8. Each longest piece of a broken sequence
becomes one replacement character.
-/

namespace DashboardRefresh.Text

/-- A sequence under way: its code point so far, how many bytes are missing, and between what bounds
the next one has to be. -/
structure Utf8Pending where
  point : Nat
  missing : Nat
  low : Nat
  high : Nat

/-- The character that stands for bytes that are no text. -/
def replacement : Char := '\uFFFD'

/-- What the first byte of a sequence gives: characters, and a sequence that goes on. -/
def utf8Lead (b : Nat) : List Char × Option Utf8Pending :=
  if b < 0x80 then ([Char.ofNat b], none)
  else if 0xC2 ≤ b ∧ b ≤ 0xDF then ([], some ⟨b - 0xC0, 1, 0x80, 0xBF⟩)
  else if 0xE0 ≤ b ∧ b ≤ 0xEF then
    ([], some ⟨b - 0xE0, 2, if b = 0xE0 then 0xA0 else 0x80, if b = 0xED then 0x9F else 0xBF⟩)
  else if 0xF0 ≤ b ∧ b ≤ 0xF4 then
    ([], some ⟨b - 0xF0, 3, if b = 0xF0 then 0x90 else 0x80, if b = 0xF4 then 0x8F else 0xBF⟩)
  else ([replacement], none)

/-- What one more byte gives. -/
def utf8Step (pending : Option Utf8Pending) (b : Nat) : List Char × Option Utf8Pending :=
  match pending with
  | none => utf8Lead b
  | some p =>
    if p.low ≤ b ∧ b ≤ p.high then
      let point := 64 * p.point + (b - 0x80)
      if p.missing = 1 then ([Char.ofNat point], none)
      else ([], some ⟨point, p.missing - 1, 0x80, 0xBF⟩)
    else
      let r := utf8Lead b
      (replacement :: r.1, r.2)

def utf8Chars (pending : Option Utf8Pending) : List UInt8 → List Char
  | [] => if pending.isSome then [replacement] else []
  | b :: bs =>
    let r := utf8Step pending b.toNat
    r.1 ++ utf8Chars r.2 bs

/-- The text of some bytes in UTF-8. -/
def ofUtf8 (bytes : List UInt8) : String := String.ofList (utf8Chars none bytes)

/-! ## UTF-16 -/

/-- The code units of some bytes, two bytes each; a byte that is left over at the end is none. -/
def units16 (bigEndian : Bool) : List UInt8 → List (Option Nat)
  | a :: b :: bs =>
    let (high, low) := if bigEndian then (a, b) else (b, a)
    some (256 * high.toNat + low.toNat) :: units16 bigEndian bs
  | [_] => [none]
  | [] => []

def isHighSurrogate (unit : Nat) : Bool := 0xD800 ≤ unit && unit < 0xDC00

def isLowSurrogate (unit : Nat) : Bool := 0xDC00 ≤ unit && unit < 0xE000

/-- The character that a code unit is by itself. -/
def unitChar (unit : Nat) : Char := (charOf? unit).getD replacement

/-- The characters of code units. A surrogate without its partner is no character, and neither is
what is left over at the end, with or without a surrogate before it. -/
def utf16Chars : List (Option Nat) → List Char
  | some high :: some low :: units =>
    if isHighSurrogate high && isLowSurrogate low then
      Char.ofNat (0x10000 + (high - 0xD800) * 0x400 + (low - 0xDC00)) :: utf16Chars units
    else unitChar high :: utf16Chars (some low :: units)
  | some unit :: none :: _ =>
    if isHighSurrogate unit then [replacement] else [unitChar unit, replacement]
  | [some unit] => [unitChar unit]
  | none :: _ => [replacement]
  | [] => []

/-- The text of some bytes in UTF-16. -/
def ofUtf16 (bigEndian : Bool) (bytes : List UInt8) : String :=
  String.ofList (utf16Chars (units16 bigEndian bytes))

/-! ## Marks -/

/-- The text of some bytes, in the encoding that a mark at their front names, and else in UTF-8. -/
def ofMarked : List UInt8 → String
  | 0xEF :: 0xBB :: 0xBF :: bytes => ofUtf8 bytes
  | 0xFF :: 0xFE :: bytes => ofUtf16 false bytes
  | 0xFE :: 0xFF :: bytes => ofUtf16 true bytes
  | bytes => ofUtf8 bytes

end DashboardRefresh.Text
