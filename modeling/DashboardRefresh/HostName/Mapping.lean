import DashboardRefresh.HostName.Ideographs
import DashboardRefresh.HostName.Letters
import DashboardRefresh.HostName.Sequences
import DashboardRefresh.Text.Category

/-!
# The characters of names

What each character stands for in the name of a host: itself, others, or nothing; or no name has it.
The rules are those for international names of Unicode 17, in which a character that stands for
others and a blank or a separator is refused at once.
-/

namespace DashboardRefresh.HostName

/-- The characters that no name has. Code points without a character, which names do not have
either, may lie in these ranges. -/
def refusedRanges : List (Nat × Nat) := [
  (0x80, 0xA0), (0xA8, 0xA8), (0xAF, 0xAF), (0xB4, 0xB4), (0xB8, 0xB8), (0x2D8, 0x2DD),
  (0x37A, 0x37A), (0x384, 0x385), (0x600, 0x605), (0x61C, 0x61C), (0x6DD, 0x6DD), (0x70F, 0x70F),
  (0x890, 0x891), (0x8E2, 0x8E2), (0x1680, 0x1680), (0x1FBD, 0x1FBD), (0x1FBF, 0x1FC1),
  (0x1FCD, 0x1FCF), (0x1FDD, 0x1FDF), (0x1FED, 0x1FEE), (0x1FFD, 0x200A), (0x200E, 0x200F),
  (0x2017, 0x2017), (0x2024, 0x2026), (0x2028, 0x202F), (0x203E, 0x203E), (0x2047, 0x2049),
  (0x205F, 0x205F), (0x2066, 0x2069), (0x2100, 0x2101), (0x2105, 0x2106), (0x2488, 0x249B),
  (0x2A74, 0x2A74), (0x2FF0, 0x3000), (0x309B, 0x309C), (0x31EF, 0x31EF), (0x33C2, 0x33C2),
  (0x33C7, 0x33C7), (0x33D8, 0x33D8), (0xE000, 0xF8FF), (0xFC5E, 0xFC63), (0xFDFA, 0xFDFB),
  (0xFE12, 0xFE12), (0xFE19, 0xFE19), (0xFE30, 0xFE30), (0xFE49, 0xFE4C), (0xFE52, 0xFE52),
  (0xFE70, 0xFE70), (0xFE72, 0xFE72), (0xFE74, 0xFE76), (0xFE78, 0xFE78), (0xFE7A, 0xFE7A),
  (0xFE7C, 0xFE7C), (0xFE7E, 0xFE7E), (0xFFE3, 0xFFE3), (0xFFF9, 0xFFFD), (0x110BD, 0x110BD),
  (0x110CD, 0x110CD), (0x13430, 0x1343F), (0x1F100, 0x1F100), (0xE0001, 0xE007F),
  (0xF0000, 0x10FFFD)]

/-- The characters that stand for nothing: soft hyphens, joiners and selectors. -/
def droppedRanges : List (Nat × Nat) := [
  (0xAD, 0xAD), (0x34F, 0x34F), (0x115F, 0x1160), (0x17B4, 0x17B5), (0x180B, 0x180F),
  (0x200B, 0x200B), (0x2060, 0x2064), (0x206A, 0x206F), (0x3164, 0x3164), (0xFE00, 0xFE0F),
  (0xFEFF, 0xFEFF), (0xFFA0, 0xFFA0), (0x1BCA0, 0x1BCA3), (0x1D173, 0x1D17A), (0xE0100, 0xE01EF)]

/-- The characters that `c` stands for in a name; `none` if no name has it. -/
def image? (c : Char) : Option (List Char) :=
  if c.toNat < 0x80 then some [c.toLower]
  else if Text.isUnassigned c || Text.inRanges refusedRanges c then none
  else if Text.inRanges droppedRanges c then some []
  else match Text.CharRun.image? shiftedRuns c with
    | some d => some [d]
    | none =>
      match fixedRanges.find? fun r => r.1 ≤ c.toNat && c.toNat ≤ r.2.1 with
      | some r => some [Char.ofNat r.2.2]
      | none =>
        match ideograph? c with
        | some d => some [d]
        | none => some ((sequence? c).getD [c])

/-- Whether `c` stands for itself. -/
def isKept (c : Char) : Bool := image? c == some [c]

/-- What a name stands for, character by character. -/
def mapped? (name : List Char) : Option (List Char) :=
  (name.mapM image?).map List.flatten

end DashboardRefresh.HostName
