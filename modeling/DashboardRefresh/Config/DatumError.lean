import DashboardRefresh.Config.Datum
import DashboardRefresh.Json.Printer
import DashboardRefresh.Number.Shortest
import DashboardRefresh.Text.Quoted
import DashboardRefresh.Time.Duration
import DashboardRefresh.Widget.Fault

/-!
# Data that do not fit

Why a datum cannot be what its place asks for. A message names what was found and what was
expected.
-/

namespace DashboardRefresh

/-- What a place of a configuration asks for. -/
inductive Shape where
  | text
  | boolean
  | sequence
  | mapping
  /-- A number below 2^16. -/
  | statusCode
  /-- A number below 2^64. -/
  | count
  /-- The name of a kind of widget. -/
  | kindName
  /-- The place of a kind among all kinds. -/
  | kindPlace
  | site
  | credentials
  | widget
  deriving DecidableEq

def Shape.describe : Shape → String
  | text => "a string"
  | boolean => "a boolean"
  | sequence => "a sequence"
  | mapping => "a map"
  | statusCode => "u16"
  | count => "usize"
  | kindName => "variant identifier"
  | kindPlace => "variant index 0 <= i < " ++ toString WidgetKind.all.length
  | site => "struct SiteConfig"
  | credentials => "struct BasicAuth"
  | widget => "struct WidgetConfig"

/-- A number with all its digits and at least one after the point. -/
def realInFull : Binary64 → String
  | .finite negative mantissa exponent =>
    (if negative then "-" else "") ++ (Decimal.shortest .up mantissa exponent).withPoint
  | .infinite negative => if negative then "-inf" else "inf"
  | .notANumber => "NaN"

/-- How the messages about the data of some text are worded. -/
structure DatumWording where
  realText : Binary64 → String
  /-- What should have been, in place of more items than there are fields. -/
  surplus : (fields : Nat) → String

namespace DatumWording

/-- As many items as fields. -/
def fieldCount (fields : Nat) : String := toString fields ++ " elements in sequence"

/-- The wording for a TOML text. -/
def toml : DatumWording := ⟨realInFull, fieldCount⟩

/-- The wording for the widgets of a JSON text. -/
def json : DatumWording := ⟨Json.realText, fieldCount⟩

/-- The wording for a JSON text that is nothing but a list of records. -/
def jsonRecords : DatumWording := ⟨Json.realText, fun _ => "fewer elements in array"⟩

end DatumWording

/-- What a datum is called in messages. -/
def Datum.describe (w : DatumWording) : Datum → String
  | null => "null"
  | boolean b => "boolean `" ++ toString b ++ "`"
  | integer n => "integer `" ++ toString n ++ "`"
  | word n => "integer `" ++ toString n ++ "`"
  | real x => "floating point `" ++ w.realText x ++ "`"
  | text s => "string " ++ Text.quoted s
  | sequence _ => "sequence"
  | mapping _ => "map"

inductive DatumError where
  | unexpected (found : Datum) (expected : Shape)
  | outOfRange (n : Int) (expected : Shape)
  | unknownKind (name : String)
  | missing (field : String)
  /-- A sequence in place of a mapping ends before a field that is required. -/
  | tooShort (length : Nat) (expected : Shape) (fields : Nat)
  /-- A sequence in place of a mapping has more items than there are fields. -/
  | tooLong (length : Nat) (fields : Nat)
  | badDuration (error : Duration.TextError)

/-- The message about an unusable value of a setting. -/
def invalidValueMessage (key message : String) : String :=
  "Invalid configuration value for " ++ key ++ ": " ++ message

/-- The names of the kinds of widgets, for a message. -/
def kindNames : String :=
  String.intercalate ", " (WidgetKind.all.map fun kind => "`" ++ kind.name ++ "`")

def DatumError.message (w : DatumWording) : DatumError → String
  | unexpected found expected =>
    "invalid type: " ++ found.describe w ++ ", expected " ++ expected.describe
  | outOfRange n expected =>
    "invalid value: integer `" ++ toString n ++ "`, expected " ++ expected.describe
  | unknownKind name => "unknown variant `" ++ name ++ "`, expected one of " ++ kindNames
  | missing field => "missing field `" ++ field ++ "`"
  | tooShort length expected fields =>
    "invalid length " ++ toString length ++ ", expected " ++ expected.describe ++ " with " ++
      toString fields ++ " elements"
  | tooLong length fields =>
    "invalid length " ++ toString length ++ ", expected " ++ w.surplus fields
  | badDuration error => invalidValueMessage "duration" error.message

end DashboardRefresh
