import DashboardRefresh.Toml.Scalar
import DashboardRefresh.Toml.Table
import DashboardRefresh.Toml.Text

/-!
# TOML documents

A document is read into its statements, one to a line, and the statements are carried out in order.
A header begins a table, and the keys and values after it go into that table; the table itself is
put in its place when the next header or the end of the document comes.
-/

namespace DashboardRefresh.Toml

/-! ## Values -/

/-- The rest after blanks, line breaks and comments. -/
def skipTrivia : (comment : Bool) → List Char → List Char
  | _, '\n' :: cs => skipTrivia false cs
  | _, '\r' :: '\n' :: cs => skipTrivia false cs
  | true, c :: cs => if isPrintable c then skipTrivia true cs else c :: cs
  | false, '#' :: cs => skipTrivia true cs
  | false, c :: cs => if isSpace c then skipTrivia false cs else c :: cs
  | _, [] => []

/-- The items of an array up to its closing bracket, at most `fuel` of them. A comma may follow the
last one. -/
def readItems (value : Reader Datum) : (fuel : Nat) → Reader (List Datum)
  | 0, _ => none
  | fuel + 1, cs =>
    match skipTrivia false cs with
    | ']' :: cs => some ([], cs)
    | cs => do
      let (d, cs) ← value cs
      match skipTrivia false cs with
      | ']' :: cs => return ([d], cs)
      | ',' :: cs =>
        let (items, cs) ← readItems value fuel cs
        return (d :: items, cs)
      | _ => none

/-- A key, an equals sign and a value: the parts of the key before the last one, the last one, and
the value. -/
def readPair (value : Reader Datum) : Reader (List String × String × Datum) := fun cs => do
  let (parts, cs) ← readKey cs
  let key ← parts.getLast?
  let cs ← expect '=' cs
  let (d, cs) ← value (skipSpaces cs)
  return ((parts.dropLast, key, d), skipSpaces cs)

/-- The keys and values of an inline table up to its closing brace. -/
def readPairs (value : Reader Datum) : Reader (List (List String × String × Datum)) := fun cs =>
  match skipSpaces cs with
  | '\x7d' :: cs => some ([], cs)
  | cs => Reader.commaList (readPair value) '\x7d' cs.length cs

/-- A value, with arrays and inline tables nested at most `depth` deep. -/
def readValue : (depth : Nat) → Reader Datum
  | 0, cs => readLeaf cs
  | depth + 1, cs =>
    match cs with
    | '[' :: cs => do
      let (items, cs) ← readItems (readValue depth) (cs.length + 1) cs
      return (.sequence items, cs)
    | '\x7b' :: cs => do
      let (pairs, cs) ← readPairs (readValue depth) cs
      return (← inlineTable? pairs, cs)
    | cs => readLeaf cs
where
  /-- A value that is no array and no inline table. -/
  readLeaf (cs : List Char) : Option (Datum × List Char) :=
    match cs with
    | '"' :: _ | '\'' :: _ => (readText cs).map fun r => (.text r.1, r.2)
    | _ => readScalar cs

/-! ## Statements -/

inductive Statement where
  /-- A value for a key, whose parts but the last lead to its table. -/
  | assign (path : List String) (key : String) (d : Datum)
  /-- The header of a table. -/
  | header (path : List String) (key : String)
  /-- The header of one more table of a list. -/
  | listHeader (path : List String) (key : String)

/-- The rest after the end of a line, with an optional comment before it. -/
def endLine (cs : List Char) : Option (List Char) :=
  let cs := match skipSpaces cs with
    | '#' :: cs => cs.dropWhile isPrintable
    | cs => cs
  if cs.isEmpty then some [] else afterNewline? cs

/-- A statement on a line that is not empty. -/
def readStatement : Reader Statement
  | '[' :: '[' :: cs => do
    let (parts, cs) ← readKey cs
    let cs ← Reader.after? [']', ']'] cs
    return (.listHeader parts.dropLast (← parts.getLast?), cs)
  | '[' :: cs => do
    let (parts, cs) ← readKey cs
    let cs ← expect ']' cs
    return (.header parts.dropLast (← parts.getLast?), cs)
  | cs => do
    let ((path, key, d), cs) ← readPair (readValue (depthLimit - 1)) cs
    return (.assign path key d, cs)

/-- The statements of a document of at most `fuel` lines. -/
def readStatements : (fuel : Nat) → List Char → Option (List Statement)
  | 0, _ => none
  | fuel + 1, cs =>
    match skipSpaces cs with
    | [] => some []
    | '#' :: cs => do readStatements fuel (← endLine ('#' :: cs))
    | '\n' :: cs => readStatements fuel cs
    | '\r' :: '\n' :: cs => readStatements fuel cs
    | cs => do
      let (statement, cs) ← readStatement cs
      let statements ← readStatements fuel (← endLine cs)
      return statement :: statements

/-! ## Carrying them out -/

/-- Where the keys after a header go: the place of the table, and whether it joins a list. -/
structure Place where
  path : List String
  key : String
  listed : Bool

structure Builder where
  /-- The document without the table that is being filled. -/
  root : Entries
  /-- The place of that table, unless it is the document itself. -/
  place : Option Place
  table : Entries

namespace Builder

def initial : Builder := ⟨[], none, []⟩

/-- Put the table that is being filled into its place. -/
def close (b : Builder) : Option Entries :=
  match b.place with
  | none => some b.table
  | some place =>
    (Entries.editAt false (fun _ entries =>
      if place.listed then
        match entries.lookup place.key with
        | none => (entries.add? place.key (.tables [b.table])).map (·, ())
        | some (.tables items) =>
          some (entries.replace place.key (.tables (items ++ [b.table])), ())
        | some _ => none
      else (entries.add? place.key (.table .declared b.table)).map (·, ()))
      place.path .declared b.root).map (·.1)

/-- Begin the table of a header. One that was passed on the way to another is taken up again, and
moves to the end of its table. -/
def beginTable (root : Entries) (path : List String) (key : String) : Option Builder := do
  let (root, table) ← Entries.editAt false (fun _ entries =>
    match entries.lookup key with
    | none => some (entries, [])
    | some (.table .passed sub) => some (entries.filter (·.1 ≠ key), sub)
    | some _ => none) path .declared root
  return ⟨root, some ⟨path, key, false⟩, table⟩

/-- Begin one more table of a list. -/
def beginListed (root : Entries) (path : List String) (key : String) : Option Builder := do
  let (root, _) ← Entries.editAt false (fun _ entries =>
    match entries.lookup key with
    | none => some (entries ++ [(key, .tables [])], ())
    | some (.tables _) => some (entries, ())
    | some _ => none) path .declared root
  return ⟨root, some ⟨path, key, true⟩, []⟩

def run (b : Builder) : Statement → Option Builder
  | .assign path key d => do return { b with table := ← b.table.assign path key d }
  | .header path key => do beginTable (← b.close) path key
  | .listHeader path key => do beginListed (← b.close) path key

end Builder

/-- The rest after a byte order mark, if one comes first. -/
def afterMark : List Char → List Char
  | '\uFEFF' :: cs => cs
  | cs => cs

/-- Read a document: its entries in the order of the text. -/
def read? (s : String) : Option (List (String × Datum)) := do
  let cs := afterMark s.toList
  let statements ← readStatements (cs.length + 1) cs
  let b ← statements.foldlM Builder.run Builder.initial
  return Node.toEntries (← b.close)

end DashboardRefresh.Toml
