/-!
# Base 64

Bytes as text: three bytes to four characters, with equals signs to fill up the last four.
-/

namespace DashboardRefresh.Base64

/-- The character of a digit. -/
def digitChar (n : Nat) : Char :=
  if n < 26 then Char.ofNat (65 + n)
  else if n < 52 then Char.ofNat (71 + n)
  else if n < 62 then Char.ofNat (n - 4)
  else if n = 62 then '+'
  else '/'

/-- The first `count` of the four digits of three bytes. -/
def digits (count a b c : Nat) : List Char :=
  let n := 65536 * a + 256 * b + c
  ([n / 262144, n / 4096 % 64, n / 64 % 64, n % 64].take count).map digitChar

def encode : List UInt8 → List Char
  | [] => []
  | [a] => digits 2 a.toNat 0 0 ++ ['=', '=']
  | [a, b] => digits 3 a.toNat b.toNat 0 ++ ['=']
  | a :: b :: c :: bytes => digits 4 a.toNat b.toNat c.toNat ++ encode bytes

end DashboardRefresh.Base64
