import DashboardRefresh.Json.Value

/-!
# Configuration data

What a configuration text holds before anything is known of its meaning: scalars, sequences, and
mappings with their entries in the order of the text.
-/

namespace DashboardRefresh

inductive Datum where
  | null
  | boolean (b : Bool)
  | integer (n : Int)
  /-- A number without a sign, in the texts that tell these from others. -/
  | word (n : Nat)
  | real (x : Binary64)
  | text (s : String)
  | sequence (items : List Datum)
  | mapping (entries : List (String × Datum))

namespace Datum

mutual

/-- The datum as a JSON document. A number that JSON cannot write becomes null. -/
def toJson : Datum → Json
  | null => .null
  | boolean b => .boolean b
  | integer n => .number (.integer n)
  | word n => .number (.integer n)
  | real x => if x.isFinite then .number (.real x) else .null
  | text s => .text s
  | sequence items => .list (toJsonItems items)
  | mapping entries => .object (toJsonMembers [] entries)

def toJsonItems : List Datum → List Json
  | [] => []
  | item :: items => item.toJson :: toJsonItems items

def toJsonMembers (sorted : List (String × Json)) :
    List (String × Datum) → List (String × Json)
  | [] => sorted
  | (name, value) :: entries =>
    toJsonMembers (insertNamed name value.toJson sorted) entries

end

mutual

/-- The datum that a JSON document holds. -/
def ofJson : Json → Datum
  | .null => null
  | .boolean b => boolean b
  | .number (.integer n) => if n < 0 then integer n else word n.toNat
  | .number (.real x) => real x
  | .text s => text s
  | .list items => sequence (ofJsonItems items)
  | .object members => mapping (ofJsonMembers members)

def ofJsonItems : List Json → List Datum
  | [] => []
  | item :: items => ofJson item :: ofJsonItems items

def ofJsonMembers : List (String × Json) → List (String × Datum)
  | [] => []
  | (name, value) :: members => (name, ofJson value) :: ofJsonMembers members

end

end Datum

end DashboardRefresh
