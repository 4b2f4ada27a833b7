import DashboardRefresh.Config.DatumError

/-!
# Reading data

Readers of scalars, lists and records. A record is read entry by entry in the order of the text, so
the first entry that does not fit decides the error; only then is it asked which required fields
are missing. Entries that no field has are passed over.
-/

namespace DashboardRefresh.Datum

variable {α : Type}

def asText : Datum → Except DatumError String
  | text s => .ok s
  | d => .error (.unexpected d .text)

def asBoolean : Datum → Except DatumError Bool
  | boolean b => .ok b
  | d => .error (.unexpected d .boolean)

/-- A natural number below `bound`. -/
def asNatural (bound : Nat) (expected : Shape) : Datum → Except DatumError Nat
  | integer n =>
    if 0 ≤ n ∧ n < bound then .ok n.toNat else .error (.outOfRange n expected)
  | word n => if n < bound then .ok n else .error (.outOfRange n expected)
  | d => .error (.unexpected d expected)

def asDuration (d : Datum) : Except DatumError Duration := do
  (Duration.parse (← d.asText)).mapError .badDuration

def asOptional (f : Datum → Except DatumError α) : Datum → Except DatumError (Option α)
  | null => .ok none
  | d => (f d).map some

def asList (f : Datum → Except DatumError α) : Datum → Except DatumError (List α)
  | sequence items => items.mapM f
  | d => .error (.unexpected d .sequence)

/-- A mapping of names to texts, sorted by name. -/
def asTexts : Datum → Except DatumError (List (String × String))
  | mapping entries => do
    return sortNamed (← entries.mapM fun e => return (e.1, ← e.2.asText))
  | d => .error (.unexpected d .mapping)

/-- Read the fields of a record one entry at a time, from a record without fields on. -/
def readFields (set : α → String → Datum → Except DatumError α) (blank : α)
    (entries : List (String × Datum)) : Except DatumError α :=
  entries.foldlM (fun a e => set a e.1 e.2) blank

/-- The first of some fields that no entry has. -/
def missingField? (required : List String) (entries : List (String × Datum)) : Option String :=
  required.find? fun name => (entries.lookup name).isNone

/-- Read a record that has some required fields. -/
def readRecord (set : α → String → Datum → Except DatumError α) (blank : α)
    (required : List String) (entries : List (String × Datum)) : Except DatumError α := do
  let a ← readFields set blank entries
  match missingField? required entries with
  | some name => .error (.missing name)
  | none => .ok a

/-- Read a record that may also be given as the sequence of its fields, the required ones first. -/
def asRecord (expected : Shape) (fields : List String)
    (set : α → String → Datum → Except DatumError α) (blank : α) (required : List String) :
    Datum → Except DatumError α
  | mapping entries => readRecord set blank required entries
  | sequence items => do
    let a ← readFields set blank (fields.zip items)
    if items.length < required.length then
      .error (.tooShort items.length expected fields.length)
    else if fields.length < items.length then .error (.tooLong items.length fields.length)
    else .ok a
  | d => .error (.unexpected d expected)

end DashboardRefresh.Datum
