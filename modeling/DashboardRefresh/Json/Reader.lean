import DashboardRefresh.Json.Value
import DashboardRefresh.Number.Word
import DashboardRefresh.Text.DecimalDigit
import DashboardRefresh.Text.Reader

/-!
# Reading JSON

Values are read from a text in two ways. A strict reader builds them: objects and lists are at most
127 deep, and there is no escape of half a surrogate pair. A number keeps as many of its leading
digits as fit 64 bits; if it has a point, an exponent or more digits it becomes the binary number
nearest to those digits, scaled in binary arithmetic by the power of ten. The other reader passes
over a value and looks at its grammar only.
-/

namespace DashboardRefresh.Json

def isBlank (c : Char) : Bool := c == ' ' || c == '\n' || c == '\t' || c == '\r'

def skipBlanks (cs : List Char) : List Char := cs.dropWhile isBlank

/-! ## Texts -/

/-- What the escapes of one character stand for. -/
def escapes : List (Char × Char) :=
  [('"', '"'), ('\\', '\\'), ('/', '/'), ('b', '\x08'), ('f', '\x0c'), ('n', '\n'), ('r', '\r'),
    ('t', '\t')]

/-- The characters of a text after its opening quote, and what follows the closing one. -/
def readText : Reader (List Char)
  | '"' :: cs => some ([], cs)
  | '\\' :: 'u' :: a :: b :: c :: d :: '\\' :: 'u' :: e :: f :: g :: h :: cs => do
    let high ← Text.hexValue? [a, b, c, d]
    match Text.charOf? high with
    | some char =>
      (readText ('\\' :: 'u' :: e :: f :: g :: h :: cs)).map fun r => (char :: r.1, r.2)
    | none =>
      let low ← Text.hexValue? [e, f, g, h]
      if 0xD800 ≤ high ∧ high < 0xDC00 ∧ 0xDC00 ≤ low ∧ low < 0xE000 then
        let char ← Text.charOf? (0x10000 + (high - 0xD800) * 0x400 + (low - 0xDC00))
        (readText cs).map fun r => (char :: r.1, r.2)
      else none
  | '\\' :: 'u' :: a :: b :: c :: d :: cs => do
    let char ← Text.charOf? (← Text.hexValue? [a, b, c, d])
    (readText cs).map fun r => (char :: r.1, r.2)
  | '\\' :: c :: cs => do
    let char ← escapes.lookup c
    (readText cs).map fun r => (char :: r.1, r.2)
  | c :: cs =>
    if c.toNat < 0x20 then none else (readText cs).map fun r => (c :: r.1, r.2)
  | [] => none

/-- Pass over a text after its opening quote. An escape may be half a surrogate pair. -/
def skipText : Reader Unit
  | '"' :: cs => some ((), cs)
  | '\\' :: 'u' :: a :: b :: c :: d :: cs =>
    if (Text.hexValue? [a, b, c, d]).isSome then skipText cs else none
  | '\\' :: c :: cs => if (escapes.lookup c).isSome then skipText cs else none
  | c :: cs => if c.toNat < 0x20 then none else skipText cs
  | [] => none

/-! ## Numbers -/

/-- Digits appended to a number while it fits 64 bits, and the digits that are left. -/
def accumulate : Nat → List Char → Nat × List Char
  | n, [] => (n, [])
  | n, c :: cs =>
    if Word.unsignedLimit ≤ 10 * n + Text.digitValue c then (n, c :: cs)
    else accumulate (10 * n + Text.digitValue c) cs

/-- The power of ten nearest to `10 ^ k`. -/
def powerOfTen (k : Nat) : Binary64 := .ofDecimal false 1 k

/-- `x` divided by `10 ^ k`, in steps of at most `10 ^ 308`. -/
def scaleDown (x : Binary64) (k : Nat) : Binary64 :=
  if k ≤ 308 then x.div (powerOfTen k)
  else if x.isZero then x
  else scaleDown (x.div (powerOfTen 308)) (k - 308)
termination_by k

/-- `significand * 10 ^ exponent`, or nothing if it is out of range. -/
def scaled? (significand : Nat) (exponent : Int) : Option Binary64 :=
  let x := Binary64.ofNat significand
  if exponent < 0 then some (scaleDown x (-exponent).toNat)
  else if 308 < exponent then if x.isZero then some x else none
  else
    let y := x.mul (powerOfTen exponent.toNat)
    if y.isFinite then some y else none

/-- The exponent that follows a number, if one does. -/
def readExponent : Reader (Option Int)
  | c :: cs =>
    if c = 'e' ∨ c = 'E' then
      let (negative, cs) := match cs with
        | '+' :: cs => (false, cs)
        | '-' :: cs => (true, cs)
        | _ => (false, cs)
      let (digits, cs) := Reader.span Char.isDigit cs
      if digits.isEmpty then none
      else
        let n : Int := Text.decimalValue digits
        some (some (if negative then -n else n), cs)
    else some (none, c :: cs)
  | [] => some (none, [])

/-- The digits after a point, if there is one: then at least one. -/
def readFraction : Reader (Option (List Char))
  | '.' :: cs =>
    let (digits, cs) := Reader.span Char.isDigit cs
    if digits.isEmpty then none else some (some digits, cs)
  | cs => some (none, cs)

/-- A number as it is written: its sign, its whole digits, the digits after its point and its
exponent. -/
structure Numeral where
  negative : Bool
  whole : List Char
  fraction : Option (List Char)
  exponent : Option Int

/-- A number without superfluous zeros at its front. -/
def readNumeral (cs : List Char) : Option (Numeral × List Char) := do
  let (negative, cs) := match cs with
    | '-' :: cs => (true, cs)
    | _ => (false, cs)
  let (whole, cs) := Reader.span Char.isDigit cs
  if whole.isEmpty ∨ (whole.head? = some '0' ∧ 1 < whole.length) then none
  else
    let (fraction, cs) ← readFraction cs
    let (exponent, cs) ← readExponent cs
    return (⟨negative, whole, fraction, exponent⟩, cs)

/-- An integer if it has 64 bits, and else the negative zero or a number too large for them. -/
def negativeInteger (n : Nat) : JsonNumber :=
  if 0 < n ∧ n ≤ Word.signedLimit then .integer (-n) else .real (Binary64.ofNat n).neg

/-- The number that is written, or nothing if it is out of range. -/
def Numeral.number? (m : Numeral) : Option JsonNumber :=
  let (n, dropped) := accumulate 0 m.whole
  if dropped.isEmpty ∧ m.fraction.isNone ∧ m.exponent.isNone then
    some (if m.negative then negativeInteger n else .integer n)
  else
    let digits := m.fraction.getD []
    let (n, rest) := accumulate n digits
    let places : Int := dropped.length - (digits.length - rest.length : Nat)
    (scaled? n (places + m.exponent.getD 0)).map fun x => .real (if m.negative then x.neg else x)

/-! ## Values -/

/-- What becomes of the parts of a document: of its texts, which the names of members are too, and
of its values. -/
structure Handling (τ α : Type) where
  /-- A text, after its opening quote. -/
  takeText : Reader τ
  ofText : τ → α
  ofNumeral : Numeral → Option α
  ofConstant : Json → α
  ofItems : List α → α
  ofMembers : List (τ × α) → α

namespace Handling

/-- Everything is kept. -/
def keeping : Handling String Json where
  takeText cs := (readText cs).map fun r => (String.ofList r.1, r.2)
  ofText := text
  ofNumeral m := m.number?.map number
  ofConstant := id
  ofItems := list
  ofMembers := object

/-- Nothing is kept. -/
def skipping : Handling Unit Unit where
  takeText := skipText
  ofText := id
  ofNumeral _ := some ()
  ofConstant _ := ()
  ofItems _ := ()
  ofMembers _ := ()

end Handling

/-- A member of an object, with blanks around its parts. The name decides how its value is read. -/
def readMember {τ α : Type} (name : Reader τ) (value : τ → Reader α) : Reader (τ × α) :=
  fun cs => do
    match skipBlanks cs with
    | '"' :: cs =>
      let (name, cs) ← name cs
      match skipBlanks cs with
      | ':' :: cs =>
        let (v, cs) ← value name cs
        return ((name, v), cs)
      | _ => none
    | _ => none

/-- The rest of an object after its opening brace. -/
def readMembers {τ α : Type} (name : Reader τ) (value : τ → Reader α) : Reader (List (τ × α)) :=
  fun cs => match skipBlanks cs with
    | '\x7d' :: cs => some ([], cs)
    | cs => Reader.commaList (readMember name value) '\x7d' cs.length cs

/-- The rest of a list after its opening bracket, with its items by some readers in turn. -/
def readRow {α : Type} (items : List (Reader α)) : Reader (List α) := fun cs =>
  match skipBlanks cs with
  | ']' :: cs => some ([], cs)
  | cs => Reader.commaRow ']' items cs

/-- The rest of a list after its opening bracket. -/
def readItems {α : Type} (item : Reader α) : Reader (List α) := fun cs =>
  readRow (List.replicate cs.length item) cs

/-- A value with blanks around it, with objects and lists nested fewer than `depth` deep. -/
def readWith {τ α : Type} (h : Handling τ α) : (depth : Nat) → Reader α
  | 0, _ => none
  | depth + 1, cs =>
    let constant (j : Json) (rest : List Char) : Reader α := fun cs =>
      (Reader.after? rest cs).map fun cs => (h.ofConstant j, cs)
    let read : Option (α × List Char) :=
      match skipBlanks cs with
      | 'n' :: cs => constant null ['u', 'l', 'l'] cs
      | 't' :: cs => constant (boolean true) ['r', 'u', 'e'] cs
      | 'f' :: cs => constant (boolean false) ['a', 'l', 's', 'e'] cs
      | '"' :: cs => (h.takeText cs).map fun r => (h.ofText r.1, r.2)
      | '[' :: cs =>
        if depth = 0 then none
        else (readItems (readWith h depth) cs).map fun r => (h.ofItems r.1, r.2)
      | '\x7b' :: cs =>
        if depth = 0 then none
        else (readMembers h.takeText (fun _ => readWith h depth) cs).map fun r =>
          (h.ofMembers r.1, r.2)
      | cs => do
        let (m, cs) ← readNumeral cs
        return (← h.ofNumeral m, cs)
    read.map fun r => (r.1, skipBlanks r.2)

/-- How deep objects and lists may nest in a value that is kept, plus one. -/
def depthLimit : Nat := 128

/-- A value that is kept. -/
def readValue : (depth : Nat) → Reader Json := readWith .keeping

/-- Pass over a value, which may nest as deep as its text is long. -/
def skipValue : Reader Unit := fun cs => readWith .skipping (cs.length + 1) cs

/-- What a reader makes of a whole text. -/
def whole? {α : Type} (read : Reader α) (s : String) : Option α :=
  match read s.toList with
  | some (a, []) => some a
  | _ => none

/-- Read a text that is one JSON value. -/
def read? : String → Option Json := whole? (readValue depthLimit)

end DashboardRefresh.Json
