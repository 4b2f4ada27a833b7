import DashboardRefresh.Number.Binary64
import DashboardRefresh.Text.Named

/-!
# JSON documents

A JSON value keeps the members of an object in the order of its text, repeated names included. Its
canonical form sorts them by name and keeps the last of those with the same name.
-/

namespace DashboardRefresh

/-- A number: an integer of at most 64 bits, or a finite binary number. -/
inductive JsonNumber where
  | integer (n : Int)
  | real (x : Binary64)
  deriving DecidableEq

inductive Json where
  | null
  | boolean (b : Bool)
  | number (n : JsonNumber)
  | text (s : String)
  | list (items : List Json)
  | object (members : List (String × Json))
  deriving Inhabited

namespace Json

def ofNat (n : Nat) : Json := number (.integer n)

def ofInt (n : Int) : Json := number (.integer n)

def ofOption {α : Type} (f : α → Json) : Option α → Json
  | none => null
  | some a => f a

def ofText? (s : Option String) : Json := ofOption text s

mutual

/-- The value with the members of every object sorted by name, the last one of each name. -/
def canonical : Json → Json
  | list items => list (canonicalItems items)
  | object members => object (canonicalMembers [] members)
  | null => null
  | boolean b => boolean b
  | number n => number n
  | text s => text s

def canonicalItems : List Json → List Json
  | [] => []
  | item :: items => canonical item :: canonicalItems items

def canonicalMembers (sorted : List (String × Json)) :
    List (String × Json) → List (String × Json)
  | [] => sorted
  | (name, value) :: members =>
    canonicalMembers (insertNamed name (canonical value) sorted) members

end

end Json

end DashboardRefresh
