import DashboardRefresh.Text.Category
import DashboardRefresh.Text.Reader

/-!
# Patterns

Whether a text is a pattern, that is a regular expression, in a place that a closing brace ends. So
no brace of an expression is ever closed, and one that opens it stands for itself only where it is
escaped or one of a set. Boundaries of words cannot be looked for.
-/

namespace DashboardRefresh.Pattern

/-! ## Escapes -/

/-- What an escape or a single character stands for. -/
inductive Atom where
  | char (c : Char)
  | set
  /-- A position between characters. -/
  | place

/-- The character that has a code of `width` digits. -/
def readCode (width : Nat) : Reader Atom := fun cs => do
  let digits := cs.take width
  if digits.length ≠ width then none
  else return (.char (← Text.charOf? (← Text.hexValue? digits)), cs.drop width)

/-- What follows the backslash of an escape. -/
def readEscape : Reader Atom
  | [] => none
  | 'x' :: cs => readCode 2 cs
  | 'u' :: cs => readCode 4 cs
  | 'U' :: cs => readCode 8 cs
  | c :: cs =>
    if c = 'p' ∨ c = 'P' then
      match cs with
      | category :: cs =>
        if "clmnpsz".toList.contains category.toLower then some (.set, cs) else none
      | [] => none
    else if "dDsSwW".toList.contains c then some (.set, cs)
    else if c = 'A' ∨ c = 'z' then some (.place, cs)
    else match [('a', '\x07'), ('f', '\x0c'), ('n', '\n'), ('r', '\r'), ('t', '\t'),
        ('v', '\x0b')].lookup c with
      | some control => some (.char control, cs)
      | none =>
        if c.toNat < 0x80 ∧ !c.isAlphanum ∧ c ≠ '<' ∧ c ≠ '>' then some (.char c, cs) else none

/-! ## Sets -/

/-- A member of a set. -/
def readMember : Reader Atom
  | [] => none
  | '\\' :: cs => do
    match ← readEscape cs with
    | (.place, _) => none
    | r => return r
  | c :: cs => some (.char c, cs)

/-- A member of a set or a range of members, and the rest. A hyphen before a bracket or another
hyphen makes no range. -/
def afterRange? (cs : List Char) : Option (List Char) := do
  let (first, cs) ← readMember cs
  match cs with
  | '-' :: c :: rest =>
    if c = ']' ∨ c = '-' then return cs
    else match first, ← readMember (c :: rest) with
      | .char a, (.char b, rest) => if a ≤ b then return rest else none
      | _, _ => none
  | _ => return cs

/-- The rest after the beginning of a set. Hyphens, or a bracket, that come first are members. -/
def afterOpening (cs : List Char) : List Char :=
  let cs := match cs with
    | '^' :: cs => cs
    | cs => cs
  match cs with
  | ']' :: cs => cs
  | cs => cs.dropWhile (· == '-')

/-- The sets that have names. -/
def setNames : List String :=
  ["alnum", "alpha", "ascii", "blank", "cntrl", "digit", "graph", "lower", "print", "punct",
    "space", "upper", "word", "xdigit"]

/-- The rest after the name of a set, of which the first bracket has been read. -/
def afterSetName? (cs : List Char) : Option (List Char) := do
  let cs ← Reader.after? [':'] cs
  let (name, cs) := Reader.span (· != ':') ((Reader.after? ['^'] cs).getD cs)
  if setNames.contains (String.ofList name) then Reader.after? [':', ']'] cs else none

/-- The rest after `depth + 1` sets within each other, at most `fuel` steps away. -/
def afterSet? : Nat → Nat → List Char → Option (List Char)
  | 0, _, _ => none
  | _ + 1, _, [] => none
  | fuel + 1, depth, '[' :: cs =>
    match afterSetName? cs with
    | some rest => afterSet? fuel depth rest
    | none => afterSet? fuel (depth + 1) (afterOpening cs)
  | fuel + 1, depth, ']' :: cs =>
    match depth with
    | 0 => some cs
    | depth + 1 => afterSet? fuel depth cs
  | fuel + 1, depth, '&' :: '&' :: cs => afterSet? fuel depth cs
  | fuel + 1, depth, '-' :: '-' :: cs => afterSet? fuel depth cs
  | fuel + 1, depth, '~' :: '~' :: cs => afterSet? fuel depth cs
  | fuel + 1, depth, cs => (afterRange? cs).bind (afterSet? fuel depth)

/-! ## Groups -/

/-- What the beginning of a group comes to. -/
inductive Opening where
  | group (name : Option (List Char))
  /-- Flags for what follows. -/
  | flags

/-- The name of a group, which has not been given before. -/
def readName (names : List (List Char)) : Reader Opening := fun cs => do
  let (name, cs) := Reader.span (· != '>') cs
  let cs ← Reader.after? ['>'] cs
  let proper : Bool := match name with
    | [] => false
    | c :: rest =>
      (c == '_' || (Text.isWordChar c && !c.isDigit)) &&
        rest.all fun c => "_.[]".toList.contains c || Text.isWordChar c
  if proper ∧ !names.contains name then some (.group (some name), cs) else none

/-- Flags, none of them twice, some of them after a hyphen. They end with a parenthesis or, if they
are for a group, with a colon. -/
def readFlags (seen : List Char) : Reader Opening
  | [] => none
  | ')' :: cs => if seen.isEmpty ∨ seen.head? = some '-' then none else some (.flags, cs)
  | ':' :: cs => if seen.head? = some '-' then none else some (.group none, cs)
  | c :: cs =>
    if "-imsUuRx".toList.contains c ∧ !seen.contains c then readFlags (c :: seen) cs else none

/-- What follows the parenthesis of a group. -/
def readOpening (names : List (List Char)) : Reader Opening
  | '?' :: '=' :: _ => none
  | '?' :: '!' :: _ => none
  | '?' :: '<' :: '=' :: _ => none
  | '?' :: '<' :: '!' :: _ => none
  | '?' :: 'P' :: '<' :: cs => readName names cs
  | '?' :: '<' :: cs => readName names cs
  | '?' :: cs => readFlags [] cs
  | cs => some (.group none, cs)

/-! ## Expressions -/

/-- Whether an expression goes on properly within `depth` groups. Only what is `repeatable` can be
repeated. -/
def goesOn : Nat → Nat → List (List Char) → Bool → List Char → Bool
  | 0, _, _, _, _ => false
  | _ + 1, depth, _, _, [] => depth == 0
  | fuel + 1, depth, names, repeatable, c :: cs =>
    match c with
    | '(' =>
      match readOpening names cs with
      | none => false
      | some (.flags, cs) => goesOn fuel depth names false cs
      | some (.group name, cs) => goesOn fuel (depth + 1) (name.toList ++ names) false cs
    | ')' => depth != 0 && goesOn fuel (depth - 1) names true cs
    | '|' => goesOn fuel depth names false cs
    | '[' =>
      match afterSet? cs.length 0 (afterOpening cs) with
      | none => false
      | some cs => goesOn fuel depth names true cs
    | '\\' =>
      match readEscape cs with
      | none => false
      | some (_, cs) => goesOn fuel depth names true cs
    | '\x7b' => false
    | c =>
      if "?*+".toList.contains c then
        repeatable && goesOn fuel depth names true ((Reader.after? ['?'] cs).getD cs)
      else goesOn fuel depth names true cs

end Pattern

/-- Whether a text is a pattern. -/
def isPattern (cs : List Char) : Bool := Pattern.goesOn (cs.length + 1) 0 [] false cs

end DashboardRefresh
