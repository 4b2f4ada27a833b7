import DashboardRefresh.Json.Reader
import DashboardRefresh.Json.Record

/-!
# Reading a part of a document

A template says what of a document is wanted. What is wanted is read strictly; the members of a
record that no field has are passed over, and stay in the document as null.
-/

namespace DashboardRefresh.Json

/-- The shape of what is wanted. -/
inductive Template where
  /-- A value as it is. -/
  | value
  /-- A record with some fields. -/
  | record (fields : List (String × Template))
  | listOf (item : Template)

/-- A member by the template of its field, and null for one that no field has. -/
def readField (read : Template → Reader Json) (fields : List (String × Template)) (name : String) :
    Reader Json :=
  match fields.lookup name with
  | some field => read field
  | none => fun cs => (skipValue cs).map fun r => (null, r.2)

/-- A value by a template, with blanks around it, nested fewer than `depth` deep. -/
def readBy : (depth : Nat) → Template → Reader Json
  | depth, .value, cs => readValue depth cs
  | depth + 2, .listOf item, cs =>
    match skipBlanks cs with
    | '[' :: cs =>
      (readItems (readBy (depth + 1) item) cs).map fun r => (list r.1, skipBlanks r.2)
    | _ => none
  | depth + 2, .record fields, cs =>
    match skipBlanks cs with
    | '\x7b' :: cs =>
      let value := readField (readBy (depth + 1)) fields
      (readMembers Handling.keeping.takeText value cs).map fun r => (object r.1, skipBlanks r.2)
    | '[' :: cs =>
      (readRow (fields.map fun f => readBy (depth + 1) f.2) cs).map fun r =>
        (list r.1, skipBlanks r.2)
    | _ => none
  | _, _, _ => none

/-- Read what a template wants of a text that is one document. -/
def readAs? (template : Template) : String → Option Json := whole? (readBy depthLimit template)

/-- The names of the fields of a template for a record, and their values in a document. -/
def fieldsBy? (fields : List (String × Template)) : Json → Option (List (Option Json)) :=
  record? (fields.map Prod.fst)

/-- What no field wants may be anything: half a surrogate pair, a number out of range. -/
example : (readAs? (.record [("a", .value)])
    "\x7b\"b\": [\"\\ud800\", 1e999], \"a\": null\x7d").isSome := by
  decide

end DashboardRefresh.Json
