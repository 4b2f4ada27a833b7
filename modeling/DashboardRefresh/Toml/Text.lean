import DashboardRefresh.Text.Reader

/-!
# TOML texts and keys

Basic texts stand in double quotes and have escapes, literal texts stand in single quotes and have
none. Three quotes in place of one allow line breaks. No text holds a control character other than
the tab.
-/

namespace DashboardRefresh.Toml

/-- A space or a tab. -/
def isSpace (c : Char) : Bool := c == ' ' || c == '\t'

def skipSpaces (cs : List Char) : List Char := cs.dropWhile isSpace

/-- The characters of comments and texts: all but the control characters, with the tab. -/
def isPrintable (c : Char) : Bool := c == '\t' || (0x20 ≤ c.toNat && c.toNat ≠ 0x7F)

/-- The rest after a line break, if one comes first. -/
def afterNewline? : List Char → Option (List Char)
  | '\n' :: cs => some cs
  | '\r' :: '\n' :: cs => some cs
  | _ => none

/-- The character that a letter after a backslash stands for. -/
def escaped? (c : Char) : Option Char :=
  [('b', '\x08'), ('f', '\x0c'), ('n', '\n'), ('r', '\r'), ('t', '\t'), ('"', '"'),
    ('\\', '\\')].lookup c

/-- Put a character in front of what was read. -/
def consResult (c : Char) (r : Option (List Char × List Char)) : Option (List Char × List Char) :=
  r.map fun r => (c :: r.1, r.2)

/-- The character that hexadecimal digits name, in front of what was read. -/
def consCode (digits : List Char) (r : Option (List Char × List Char)) :
    Option (List Char × List Char) := do
  consResult (← Text.charOf? (← Text.hexValue? digits)) r

/-- A basic text on one line, after its opening quote. -/
def readBasic : Reader (List Char)
  | '"' :: cs => some ([], cs)
  | '\\' :: 'u' :: a :: b :: c :: d :: cs => consCode [a, b, c, d] (readBasic cs)
  | '\\' :: 'U' :: a :: b :: c :: d :: e :: f :: g :: h :: cs =>
    consCode [a, b, c, d, e, f, g, h] (readBasic cs)
  | '\\' :: c :: cs => do consResult (← escaped? c) (readBasic cs)
  | c :: cs => if isPrintable c then consResult c (readBasic cs) else none
  | [] => none

/-- A literal text on one line, after its opening quote. -/
def readLiteral : Reader (List Char)
  | '\'' :: cs => some ([], cs)
  | c :: cs => if isPrintable c then consResult c (readLiteral cs) else none
  | [] => none

/-- A basic text on several lines, after its opening quotes. After a backslash at the end of a line
all blanks and line breaks are skipped. Up to two quotes may stand before the closing ones. -/
def readBasicLines : (skipping : Bool) → Reader (List Char)
  | true, '\n' :: cs => readBasicLines true cs
  | true, '\r' :: '\n' :: cs => readBasicLines true cs
  | true, ' ' :: cs => readBasicLines true cs
  | true, '\t' :: cs => readBasicLines true cs
  | _, '"' :: '"' :: '"' :: '"' :: '"' :: cs => some (['"', '"'], cs)
  | _, '"' :: '"' :: '"' :: '"' :: cs => some (['"'], cs)
  | _, '"' :: '"' :: '"' :: cs => some ([], cs)
  | _, '\\' :: 'u' :: a :: b :: c :: d :: cs => consCode [a, b, c, d] (readBasicLines false cs)
  | _, '\\' :: 'U' :: a :: b :: c :: d :: e :: f :: g :: h :: cs =>
    consCode [a, b, c, d, e, f, g, h] (readBasicLines false cs)
  | _, '\\' :: c :: cs =>
    if (afterNewline? (skipSpaces (c :: cs))).isSome then readBasicLines true (c :: cs)
    else do consResult (← escaped? c) (readBasicLines false cs)
  | _, '\r' :: '\n' :: cs => consResult '\n' (readBasicLines false cs)
  | _, c :: cs =>
    if c = '\n' ∨ isPrintable c then consResult c (readBasicLines false cs) else none
  | _, [] => none

/-- A literal text on several lines, after its opening quotes. -/
def readLiteralLines : Reader (List Char)
  | '\'' :: '\'' :: '\'' :: '\'' :: '\'' :: cs => some (['\'', '\''], cs)
  | '\'' :: '\'' :: '\'' :: '\'' :: cs => some (['\''], cs)
  | '\'' :: '\'' :: '\'' :: cs => some ([], cs)
  | '\r' :: '\n' :: cs => consResult '\n' (readLiteralLines cs)
  | c :: cs => if c = '\n' ∨ isPrintable c then consResult c (readLiteralLines cs) else none
  | [] => none

/-- Without a line break at its very start. -/
def dropNewline (cs : List Char) : List Char := (afterNewline? cs).getD cs

/-- A text of any of the four forms, if one comes first. -/
def readText : Reader String := fun cs =>
  let chars := match cs with
    | '"' :: '"' :: '"' :: cs => readBasicLines false (dropNewline cs)
    | '"' :: cs => readBasic cs
    | '\'' :: '\'' :: '\'' :: cs => readLiteralLines (dropNewline cs)
    | '\'' :: cs => readLiteral cs
    | _ => none
  chars.map fun r => (String.ofList r.1, r.2)

/-! ## Keys -/

def isBareKey (c : Char) : Bool := c.isAlphanum || c == '-' || c == '_'

/-- One part of a key. -/
def readKeyPart : Reader String := fun cs =>
  let chars := match cs with
    | '"' :: cs => readBasic cs
    | '\'' :: cs => readLiteral cs
    | _ =>
      let (bare, cs) := Reader.span isBareKey cs
      if bare.isEmpty then none else some (bare, cs)
  chars.map fun r => (String.ofList r.1, r.2)

/-- A key of at most `fuel` parts, with blanks around each. -/
def readParts : (fuel : Nat) → Reader (List String)
  | 0, _ => none
  | fuel + 1, cs => do
    let (part, cs) ← readKeyPart (skipSpaces cs)
    match skipSpaces cs with
    | '.' :: cs =>
      let (parts, cs) ← readParts fuel cs
      return (part :: parts, cs)
    | cs => return ([part], cs)

/-- How deep values may nest, and how many parts a key may have, plus one. -/
def depthLimit : Nat := 80

/-- A key: parts with points between them. -/
def readKey : Reader (List String) := readParts (depthLimit - 1)

end DashboardRefresh.Toml
