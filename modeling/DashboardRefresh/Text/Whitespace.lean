/-!
# White space

The characters with the Unicode property `White_Space`, and texts stripped of them. Everything
here works on lists of characters, with the functions on strings as thin covers.
-/

namespace DashboardRefresh.Text

/-- The Unicode property `White_Space`: 25 characters, among them the no-break spaces but not the
zero-width space. -/
def isBlank (c : Char) : Bool :=
  let n := c.toNat
  (9 ≤ n && n ≤ 13) || n == 0x20 || n == 0x85 || n == 0xA0 || n == 0x1680 ||
    (0x2000 ≤ n && n ≤ 0x200A) || n == 0x2028 || n == 0x2029 || n == 0x202F || n == 0x205F ||
    n == 0x3000

/-- `cs` without the blanks at its end. -/
def trimEndChars (cs : List Char) : List Char :=
  (cs.reverse.dropWhile isBlank).reverse

/-- `cs` without the blanks at either end. -/
def trimChars (cs : List Char) : List Char :=
  trimEndChars (cs.dropWhile isBlank)

def trim (s : String) : String := String.ofList (trimChars s.toList)

/-- A text is blank when it holds nothing but white space. -/
def isBlankText (s : String) : Bool := s.toList.all isBlank

end DashboardRefresh.Text
