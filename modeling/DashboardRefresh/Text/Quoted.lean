import DashboardRefresh.Text.Category
import DashboardRefresh.Text.Reader

/-!
# Quoted texts

Texts as messages quote them: in double quotes, with escapes for what could not be told apart on
paper, which are characters without a picture and marks that combine with the character before.
-/

namespace DashboardRefresh.Text

/-- From U+0300 on, the characters of the general categories Cf, Co, Zl, Zp and Zs, the four fillers
of Hangul, and those with the property Grapheme_Extend that are no nonspacing marks. Code points
without a character and nonspacing marks may lie in these ranges. -/
def unpicturedRanges : List (Nat × Nat) := [
  (0x600, 0x605), (0x61C, 0x61C), (0x6DD, 0x6DD), (0x70F, 0x70F), (0x890, 0x891), (0x8E2, 0x8E2),
  (0x9BE, 0x9BE), (0x9D7, 0x9D7), (0xB3E, 0xB3E), (0xB57, 0xB57), (0xBBE, 0xBBE), (0xBD7, 0xBD7),
  (0xCC0, 0xCC0), (0xCC2, 0xCC2), (0xCC7, 0xCD6), (0xD3E, 0xD3E), (0xD57, 0xD57), (0xDCF, 0xDCF),
  (0xDDF, 0xDDF), (0x115F, 0x1160), (0x1680, 0x1680), (0x1715, 0x1715), (0x1734, 0x1734),
  (0x180E, 0x180E), (0x1B35, 0x1B3D), (0x1B43, 0x1B44), (0x1BAA, 0x1BAA), (0x1BF2, 0x1BF3),
  (0x2000, 0x200F), (0x2028, 0x202F), (0x205F, 0x206F), (0x3000, 0x3000), (0x302E, 0x302F),
  (0x3164, 0x3164), (0xA953, 0xA953), (0xA9C0, 0xA9C0), (0xE000, 0xF8FF), (0xFEFF, 0xFEFF),
  (0xFF9E, 0xFFA0), (0xFFF9, 0xFFFB), (0x110BD, 0x110BD), (0x110CD, 0x110CD), (0x111C0, 0x111C0),
  (0x11235, 0x11235), (0x1133E, 0x1133E), (0x1134D, 0x1134D), (0x11357, 0x11357),
  (0x113B8, 0x113B8), (0x113C2, 0x113C9), (0x113CF, 0x113CF), (0x114B0, 0x114B0),
  (0x114BD, 0x114BD), (0x115AF, 0x115AF), (0x116B6, 0x116B6), (0x11930, 0x11930),
  (0x1193D, 0x1193D), (0x11F41, 0x11F41), (0x13430, 0x1343F), (0x16FF0, 0x16FF1),
  (0x1BCA0, 0x1BCA3), (0x1D165, 0x1D166), (0x1D16D, 0x1D17A), (0xE0001, 0x10FFFD)]

/-- Whether `c` can be seen on paper, and apart from the characters around it. -/
def isPictured (c : Char) : Bool :=
  let n := c.toNat
  if n < 0x300 then (0x20 ≤ n && n < 0x7F) || (0xA0 < n && n != 0xAD)
  else !isUnassigned c && !isNonspacing c && !inRanges unpicturedRanges c

/-- The form of a character inside quotes. -/
def quoteChar (c : Char) : List Char :=
  match c with
  | '\x00' => ['\\', '0']
  | '\t' => ['\\', 't']
  | '\n' => ['\\', 'n']
  | '\r' => ['\\', 'r']
  | '"' => ['\\', '"']
  | '\\' => ['\\', '\\']
  | c => if isPictured c then [c] else '\\' :: 'u' :: '\x7b' :: hexText c.toNat ++ ['\x7d']

/-- A text in quotes. -/
def quoted (s : String) : String := String.ofList ('"' :: s.toList.flatMap quoteChar ++ ['"'])

end DashboardRefresh.Text
