import DashboardRefresh.HostName.Direction
import DashboardRefresh.HostName.Joiner
import DashboardRefresh.HostName.Mapping
import DashboardRefresh.Text.Split
import DashboardRefresh.Url.Punycode

/-!
# Labels

A name is made of labels with dots between them. Each has a form of its own script and, for the
network, a form in ASCII.
-/

namespace DashboardRefresh.HostName

/-- The marks that take room of their own, among the characters that names may have. -/
def spacingRanges : List (Nat × Nat) := [
  (0x903, 0x903), (0x93B, 0x93B), (0x93E, 0x94F), (0x982, 0x983), (0x9BE, 0x9CC), (0x9D7, 0x9D7),
  (0xA03, 0xA03), (0xA3E, 0xA40), (0xA83, 0xA83), (0xABE, 0xACC), (0xB02, 0xB03), (0xB3E, 0xB57),
  (0xBBE, 0xBCC), (0xBD7, 0xBD7), (0xC01, 0xC03), (0xC41, 0xC44), (0xC82, 0xC83), (0xCBE, 0xCD6),
  (0xCF3, 0xD03), (0xD3E, 0xD4C), (0xD57, 0xD57), (0xD82, 0xD83), (0xDCF, 0xDDF), (0xDF2, 0xDF3),
  (0xF3E, 0xF3F), (0xF7F, 0xF7F), (0x102B, 0x103C), (0x1056, 0x1057), (0x1062, 0x1064),
  (0x1067, 0x106D), (0x1083, 0x108C), (0x108F, 0x108F), (0x109A, 0x109C), (0x1715, 0x1715),
  (0x1734, 0x1734), (0x17B6, 0x17C8), (0x1923, 0x1938), (0x1A19, 0x1A1A), (0x1A55, 0x1A72),
  (0x1B04, 0x1B04), (0x1B35, 0x1B44), (0x1B82, 0x1B82), (0x1BA1, 0x1BAA), (0x1BE7, 0x1BF3),
  (0x1C24, 0x1C35), (0x1CE1, 0x1CE1), (0x1CF7, 0x1CF7), (0x302E, 0x302F), (0xA823, 0xA827),
  (0xA880, 0xA881), (0xA8B4, 0xA8C3), (0xA952, 0xA953), (0xA983, 0xA983), (0xA9B4, 0xA9C0),
  (0xAA2F, 0xAA34), (0xAA4D, 0xAA4D), (0xAA7B, 0xAA7D), (0xAAEB, 0xAAEF), (0xAAF5, 0xAAF5),
  (0xABE3, 0xABEA), (0xABEC, 0xABEC), (0x11000, 0x11002), (0x11082, 0x11082), (0x110B0, 0x110B8),
  (0x1112C, 0x1112C), (0x11145, 0x11146), (0x11182, 0x11182), (0x111B3, 0x111C0),
  (0x111CE, 0x111CE), (0x1122C, 0x11235), (0x112E0, 0x112E2), (0x11302, 0x11303),
  (0x1133E, 0x1134D), (0x11357, 0x11357), (0x11362, 0x11363), (0x113B8, 0x113CF),
  (0x11435, 0x11445), (0x114B0, 0x114C1), (0x115AF, 0x115BE), (0x11630, 0x1163E),
  (0x116AC, 0x116B6), (0x1171E, 0x11726), (0x1182C, 0x11838), (0x11930, 0x1193D),
  (0x11940, 0x11940), (0x11942, 0x11942), (0x119D1, 0x119DF), (0x119E4, 0x119E4),
  (0x11A39, 0x11A39), (0x11A57, 0x11A58), (0x11A97, 0x11A97), (0x11B61, 0x11B67),
  (0x11C2F, 0x11C3E), (0x11CA9, 0x11CB4), (0x11D8A, 0x11D96), (0x11EF5, 0x11EF6),
  (0x11F03, 0x11F03), (0x11F34, 0x11F41), (0x1612A, 0x1612C), (0x16F51, 0x16F87),
  (0x16FF0, 0x16FF1), (0x1D165, 0x1D166), (0x1D16D, 0x1D172)]

/-- Whether `c` is a mark and so cannot come first. -/
def isMark (c : Char) : Bool :=
  0x300 ≤ c.toNat && (Text.isNonspacing c || Text.inRanges spacingRanges c)

/-- The characters that no host has. -/
def isForbidden (c : Char) : Bool :=
  ['\x00', '\t', '\n', '\r', ' ', '#', '/', ':', '<', '>', '?', '@', '[', '\\', ']', '^',
    '|'].contains c

/-- The characters that no name has. -/
def isForbiddenInName (c : Char) : Bool :=
  isForbidden c || c.toNat < 0x20 || c.toNat == 0x7F || c == '%'

/-- A label in its own script and in ASCII. -/
structure Label where
  text : List Char
  ascii : List Char
  deriving DecidableEq

namespace Label

/-- What the ASCII form of a label in another script begins with. -/
def mark : List Char := ['x', 'n', '-', '-']

/-- The label that a text in ASCII stands for, given without its mark: letters of another script, in
the form that names have. -/
def ofAscii? (rest : List Char) : Option Label := do
  if 2000 < rest.length ∨ !rest.all Punycode.isAscii then none
  else
    let text ← Punycode.decode? rest
    if !text.all Punycode.isAscii ∧ text.all isKept ∧ compose text = text then
      some ⟨text, mark ++ rest⟩
    else none

/-- The label that a text is. Long labels have no form in ASCII. -/
def ofText? (text : List Char) : Option Label :=
  match Reader.after? mark text with
  | some rest => ofAscii? rest
  | none =>
    if text.all Punycode.isAscii then some ⟨text, text⟩
    else if 1000 < text.length then none
    else some ⟨text, mark ++ Punycode.encode text⟩

/-- Whether a label has nothing that no name has, does not begin with a mark, and has joiners only
where they may be. -/
def isProper (l : Label) : Bool :=
  !l.text.any isForbiddenInName && !l.text.head?.any isMark && joinersFit l.text

end Label

/-- The form of a name in ASCII. Its labels keep to their directions if one of them has something
written from right to left. -/
def ascii? (name : List Char) : Option (List Char) := do
  let labels ← (Text.splitChars '.' (compose (← mapped? name))).mapM Label.ofText?
  let anyRight := labels.any fun l => hasRight l.text
  if labels.all fun l => l.isProper && (!anyRight || keepsDirection l.text) then
    some (['.'].intercalate (labels.map (·.ascii)))
  else none

end DashboardRefresh.HostName
