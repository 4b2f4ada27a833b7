import DashboardRefresh.Board.Settings
import DashboardRefresh.Text.Category
import DashboardRefresh.Text.DecimalDigit
import DashboardRefresh.Text.Pattern
import DashboardRefresh.Text.Slice
import DashboardRefresh.Text.Split

/-!
# Log filters

What of the log is shown. A filter is a list of directives separated by commas, each of the form
`target[span{field=value}]=level` with everything but one part left out. Of the directives that a
message meets the most particular one decides.
-/

namespace DashboardRefresh

/-! ## Levels -/

/-- The levels of messages. A filter that lets a level pass lets the levels before it pass too. -/
inductive LogLevel where
  | off
  | error
  | warn
  | info
  | debug
  | trace
  deriving DecidableEq

namespace LogLevel

def name : LogLevel → String
  | off => "off"
  | error => "error"
  | warn => "warn"
  | info => "info"
  | debug => "debug"
  | trace => "trace"

/-- The number of a level. -/
def rank : LogLevel → Nat
  | off => 0
  | error => 1
  | warn => 2
  | info => 3
  | debug => 4
  | trace => 5

def all : List LogLevel := [off, error, warn, info, debug, trace]

/-- A number of decimal digits, with or without a plus. -/
def number? (cs : List Char) : Option Nat :=
  let digits := match cs with
    | '+' :: digits => digits
    | digits => digits
  if digits.isEmpty ∨ digits.any (!·.isDigit) then none else some (Text.decimalValue digits)

/-- The level that a text names, by its number or in letters of either case. -/
def ofText? (text : List Char) : Option LogLevel :=
  match number? text with
  | some n => all.find? (·.rank == n)
  | none => all.find? (·.name.toList == text.map Char.toLower)

end LogLevel

/-! ## Directives -/

/-- A field that a directive asks for, and whether it asks for a value of it too. -/
structure LogField where
  name : List Char
  valued : Bool
  deriving DecidableEq

/-- What a directive asks for, and the level that it gives to messages of which that is true. -/
structure LogDirective where
  target : Option (List Char)
  span : Option (List Char)
  field : Option LogField
  level : LogLevel
  deriving DecidableEq

/-- Why a filter cannot be read. -/
inductive LogFilterError where
  | malformed
  /-- A part of a directive begins or ends inside a character. -/
  | torn
  deriving DecidableEq

namespace LogDirective

/-- How far a directive has been read. A part under way comes with its first position. -/
inductive Stage where
  | start
  | name
  | span (first : Nat)
  | field (first : Nat)
  /-- After a field. -/
  | fields
  /-- After a span. -/
  | scope
  | level (first : Nat)

/-- Whether a target or a level can begin with `c`. -/
def startsName (c : Char) : Bool := c == '-' || c == ':' || c == '_' || Text.isWordChar c

/-- The part of a directive between two positions. -/
def part (text : List Char) (first last : Nat) : Except LogFilterError (List Char) :=
  match Text.slice? first last text with
  | some piece => .ok piece
  | none => .error .torn

/-- The end of a directive from a position on. -/
def lastPart (text : List Char) (first : Nat) : Except LogFilterError (List Char) :=
  match Text.dropBytes? first text with
  | some piece => .ok piece
  | none => .error .torn

/-- Whether a text is a number without a sign. -/
def isNumber (cs : List Char) : Bool :=
  let (whole, rest) := Reader.span Char.isDigit cs
  let (fraction, rest) := match rest with
    | '.' :: rest => Reader.span Char.isDigit rest
    | rest => ([], rest)
  let ends : Bool := match rest with
    | [] => true
    | e :: '+' :: exponent | e :: '-' :: exponent | e :: exponent =>
      e.toLower == 'e' && !exponent.isEmpty && exponent.all Char.isDigit
  ["inf", "infinity", "nan"].any (·.toList == cs.map Char.toLower) ||
    (!(whole.isEmpty && fraction.isEmpty) && ends)

/-- Whether a text is the value of a field: a pattern, as numbers are that have no plus, or a number
with one. -/
def isValue (cs : List Char) : Bool :=
  isPattern cs || match cs with
    | '+' :: number => isNumber number
    | _ => false

/-- The field that a text names. What follows a second equals sign is left out. -/
def fieldOf (text : List Char) : Except LogFilterError LogField :=
  match Text.splitChars '=' text with
  | name :: value :: _ => if isValue value then .ok ⟨name, true⟩ else .error .malformed
  | _ => if text.isEmpty then .error .malformed else .ok ⟨text, false⟩

/-- Read one more character of the directive `text`. -/
def step (text : List Char) (read : Stage × LogDirective) (next : Nat × Char) :
    Except LogFilterError (Stage × LogDirective) := do
  let (stage, d) := read
  let (position, c) := next
  match stage with
  | .start =>
    if c = '[' then return (.span (position + 1), d)
    else if startsName c then return (.name, d)
    else .error .malformed
  | .name =>
    if c = '=' then
      return (.level (position + 1), { d with target := some (← part text 0 position) })
    else if c = '[' then
      return (.span (position + 1), { d with target := some (← part text 0 position) })
    else return (.name, d)
  | .span first =>
    if c = ']' then return (.scope, { d with span := some (← part text first position) })
    else if c = '\x7b' then
      let name ← part text first position
      return (.field (position + 1), { d with span := if name.isEmpty then none else some name })
    else return (.span first, d)
  | .field first =>
    if c = '\x7d' then
      return (.fields, { d with field := some (← fieldOf (← part text first position)) })
    else return (.field first, d)
  | .fields => if c = ']' then return (.scope, d) else .error .malformed
  | .scope => if c = '=' then return (.level (position + 1), d) else .error .malformed
  | .level first => return (.level first, d)

/-- What a directive comes to when nothing follows. A target alone lets everything pass. -/
def finish (text : List Char) (read : Stage × LogDirective) :
    Except LogFilterError LogDirective :=
  let (stage, d) := read
  match stage with
  | .name =>
    match LogLevel.ofText? text with
    | some level => .ok { d with level := level }
    | none => .ok { d with target := some text }
  | .scope => .ok d
  | .level first => do
    let name ← lastPart text first
    match LogLevel.ofText? name with
    | some level => return { d with level := level }
    | none => if name.isEmpty then return d else .error .malformed
  | _ => .error .malformed

/-- Read a directive. Its positions are found without the blanks around it, but its parts are cut
from the text with them. -/
def ofText (text : List Char) : Except LogFilterError LogDirective := do
  let read ← (Text.positions 0 (Text.trimChars text)).foldlM (step text)
    (.start, ⟨none, none, none, .trace⟩)
  finish text read

end LogDirective

/-! ## Messages -/

/-- A message of the log, outside of all spans. -/
structure LogMessage where
  target : String
  fields : List String
  level : LogLevel

/-- Whether a message meets what a directive asks for. Nothing is known of the values of fields. -/
def LogDirective.meets (d : LogDirective) (m : LogMessage) : Bool :=
  d.target.all (·.isPrefixOf m.target.toList) && d.span.isNone &&
    d.field.all fun f => !f.valued && m.fields.any (·.toList == f.name)

/-- Whether the directive `a` is no more particular than `b`: what counts is how long a target it
names, and after that whether it asks for a field. -/
def LogDirective.yields (a b : LogDirective) : Bool :=
  let length (d : LogDirective) : Nat := d.target.elim 0 List.length
  length a < length b || (length a == length b && (a.field.isNone || b.field.isSome))

/-! ## Filters -/

abbrev LogFilter := List LogDirective

namespace LogFilter

/-- A directive for all messages. -/
def everything (level : LogLevel) : LogDirective := ⟨none, none, none, level⟩

/-- Read a filter. Empty directives are left out, and without any only errors pass. -/
def ofText (text : String) : Except LogFilterError LogFilter := do
  let pieces := (Text.splitChars ',' text.toList).filter (!·.isEmpty)
  let directives ← pieces.mapM LogDirective.ofText
  return if directives.isEmpty then [everything .error] else directives

/-- The most particular directive that a message meets, the last one of several. -/
def deciding? (f : LogFilter) (m : LogMessage) : Option LogDirective :=
  (f.filter (·.meets m)).foldl
    (fun best d => if best.all (·.yields d) then some d else best) none

/-- Whether a message is shown. -/
def shows (f : LogFilter) (m : LogMessage) : Bool :=
  (f.deciding? m).any fun d => m.level.rank ≤ d.level.rank

/-- The filter where none is set, or none that can be read. -/
def standard : LogFilter := [everything .info]

end LogFilter

/-- The filter that an environment sets. -/
def Environment.logFilter (e : Environment) : Except LogFilterError LogFilter :=
  match (e.text? "RUST_LOG").map LogFilter.ofText with
  | none | some (.error .malformed) => .ok LogFilter.standard
  | some r => r

end DashboardRefresh
