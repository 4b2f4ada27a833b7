import DashboardRefresh.Text.Reader

/-!
# Percent encoding

A URL writes a character that would have a meaning of its own by the bytes of its UTF-8 form, each
as a percent sign and two hexadecimal digits. Which characters need that depends on the part of the
URL.
-/

namespace DashboardRefresh.Percent

/-- A hexadecimal digit, in upper case. -/
def hexChar (n : Nat) : Char := if n < 10 then Char.ofNat (48 + n) else Char.ofNat (55 + n)

def encodeByte (b : UInt8) : List Char := ['%', hexChar (b.toNat / 16), hexChar (b.toNat % 16)]

def encodeChar (keep : Char → Bool) (c : Char) : List Char :=
  if keep c then [c] else (String.utf8EncodeChar c).flatMap encodeByte

/-- Encode the characters that are not to be kept. -/
def encode (keep : Char → Bool) (cs : List Char) : List Char := cs.flatMap (encodeChar keep)

/-- The bytes that a text stands for. A percent sign without two digits stands for itself. -/
def decode : List Char → List UInt8
  | [] => []
  | '%' :: a :: b :: cs =>
    match Text.hexDigit? a, Text.hexDigit? b with
    | some x, some y => UInt8.ofNat (16 * x + y) :: decode cs
    | _, _ => 37 :: decode (a :: b :: cs)
  | c :: cs => String.utf8EncodeChar c ++ decode cs

/-- The text that the bytes of a percent-encoded text are, if they are one. -/
def decodeText? (cs : List Char) : Option String :=
  String.fromUTF8? ⟨(decode cs).toArray⟩

/-! ## What each part of a URL keeps -/

/-- All of ASCII but the control characters. -/
def keepOpaque (c : Char) : Bool := 0x20 ≤ c.toNat && c.toNat < 0x7F

def keepFragment (c : Char) : Bool := keepOpaque c && !([' ', '"', '<', '>', '`'].contains c)

def keepPath (c : Char) : Bool := keepFragment c && !(['#', '?', '\x7b', '\x7d'].contains c)

def keepUserinfo (c : Char) : Bool :=
  keepPath c && !(['/', ':', ';', '=', '@', '[', '\\', ']', '^', '|'].contains c)

/-- A segment that is written as a whole also encodes what would end it. -/
def keepSegment (special : Bool) (c : Char) : Bool :=
  keepPath c && c != '/' && c != '%' && !(special && c == '\\')

def keepQuery (special : Bool) (c : Char) : Bool :=
  keepOpaque c && !([' ', '"', '#', '<', '>'].contains c) && !(special && c == '\'')

end DashboardRefresh.Percent
