import DashboardRefresh.Json.Value

/-!
# Records in JSON

A record is an object with its fields by name, or a list with its fields in order. Members that no
field has are passed over, but a field may not be given twice.
-/

namespace DashboardRefresh.Json

/-- The value of a field in an object, if it is given at most once. -/
def fieldOf? (members : List (String × Json)) (name : String) : Option (Option Json) :=
  match members.filter (·.1 == name) with
  | [] => some none
  | [m] => some (some m.2)
  | _ => none

/-- The values of the fields of a record. -/
def record? (fields : List String) : Json → Option (List (Option Json))
  | object members => fields.mapM (fieldOf? members)
  | list items =>
    if fields.length < items.length then none
    else some (items.map some ++ List.replicate (fields.length - items.length) none)
  | _ => none

def text? : Json → Option String
  | text s => some s
  | _ => none

/-- A value that may be missing or null. -/
def optional? {α : Type} (f : Json → Option α) : Option Json → Option (Option α)
  | none => some none
  | some null => some none
  | some j => (f j).map some

end DashboardRefresh.Json
