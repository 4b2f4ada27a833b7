/-!
# Slices

Pieces of a text by their positions, which count bytes in UTF-8. A position inside a character
cannot be cut at.
-/

namespace DashboardRefresh.Text

/-- `cs` without its first `n` bytes. -/
def dropBytes? : Nat → List Char → Option (List Char)
  | 0, cs => some cs
  | _ + 1, [] => none
  | n + 1, c :: cs => if c.utf8Size ≤ n + 1 then dropBytes? (n + 1 - c.utf8Size) cs else none

/-- The first `n` bytes of `cs`. -/
def takeBytes? : Nat → List Char → Option (List Char)
  | 0, _ => some []
  | _ + 1, [] => none
  | n + 1, c :: cs =>
    if c.utf8Size ≤ n + 1 then (takeBytes? (n + 1 - c.utf8Size) cs).map (c :: ·) else none

/-- The bytes of `cs` from one position to another. -/
def slice? (first last : Nat) (cs : List Char) : Option (List Char) :=
  (dropBytes? first cs).bind (takeBytes? (last - first))

/-- The characters of `cs` with their positions, of which the first one is `start`. -/
def positions (start : Nat) : List Char → List (Nat × Char)
  | [] => []
  | c :: cs => (start, c) :: positions (start + c.utf8Size) cs

end DashboardRefresh.Text
