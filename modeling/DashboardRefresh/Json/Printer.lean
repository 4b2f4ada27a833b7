import DashboardRefresh.Json.Value
import DashboardRefresh.Number.Shortest
import DashboardRefresh.Text.Reader

/-!
# Printing JSON

Values in one line without blanks, or indented by two blanks a level. A binary number is written
with its shortest digits and at least one digit after the point, from 10^16 on and below 10^-5 with
an exponent and its sign instead.
-/

namespace DashboardRefresh.Json

/-- The escape of a character in a text, where it needs one. -/
def escape (c : Char) : List Char :=
  match c with
  | '"' => ['\\', '"']
  | '\\' => ['\\', '\\']
  | '\x08' => ['\\', 'b']
  | '\x0c' => ['\\', 'f']
  | '\n' => ['\\', 'n']
  | '\r' => ['\\', 'r']
  | '\t' => ['\\', 't']
  | c => if c.toNat < 0x20 then '\\' :: 'u' :: Text.paddedHex 4 c.toNat else [c]

/-- A text in quotes. -/
def quote (s : String) : String :=
  String.ofList ('"' :: s.toList.flatMap escape ++ ['"'])

/-- Whether a decimal is written without an exponent. -/
def isPlain (d : Decimal) : Bool := -5 < d.pointPlace && d.pointPlace ≤ 16

def realText : Binary64 → String
  | .finite negative mantissa exponent =>
    let d := Decimal.shortest .toEven mantissa exponent
    (if negative then "-" else "") ++ if isPlain d then d.withPoint else d.scientific
  | _ => "null"

def numberText : JsonNumber → String
  | .integer n => toString n
  | .real x => realText x

mutual

/-- The value in one line. -/
def compact : Json → String
  | null => "null"
  | boolean b => if b then "true" else "false"
  | number n => numberText n
  | text s => quote s
  | list items => "[" ++ String.intercalate "," (compactItems items) ++ "]"
  | object members => "\x7b" ++ String.intercalate "," (compactMembers members) ++ "\x7d"

def compactItems : List Json → List String
  | [] => []
  | item :: items => compact item :: compactItems items

def compactMembers : List (String × Json) → List String
  | [] => []
  | (name, value) :: members => (quote name ++ ":" ++ compact value) :: compactMembers members

end

/-- Lines between two brackets, `indent` deep. -/
def block (indent : Nat) (first last : String) (lines : List String) : String :=
  let margin := "\n" ++ String.ofList (List.replicate (2 * indent) ' ')
  if lines.isEmpty then first ++ last
  else first ++ margin ++ "  " ++ String.intercalate ("," ++ margin ++ "  ") lines ++ margin ++ last

mutual

/-- The value on lines of its own, `indent` deep. -/
def pretty (indent : Nat) : Json → String
  | list items => block indent "[" "]" (prettyItems (indent + 1) items)
  | object members => block indent "\x7b" "\x7d" (prettyMembers (indent + 1) members)
  | null => "null"
  | boolean b => if b then "true" else "false"
  | number n => numberText n
  | text s => quote s

def prettyItems (indent : Nat) : List Json → List String
  | [] => []
  | item :: items => pretty indent item :: prettyItems indent items

def prettyMembers (indent : Nat) : List (String × Json) → List String
  | [] => []
  | (name, value) :: members =>
    (quote name ++ ": " ++ pretty indent value) :: prettyMembers indent members

end

end DashboardRefresh.Json
