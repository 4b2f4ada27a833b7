import DashboardRefresh.HostName.Label
import DashboardRefresh.Text.DecimalDigit
import DashboardRefresh.Url.Percent

/-!
# Hosts

The host of a URL is a domain name, an IPv4 address or an IPv6 address in brackets, and is kept in
its normal form. Other schemes than those of the web have opaque hosts, which are only checked.
-/

namespace DashboardRefresh

/-- Why a text is no absolute URL. -/
inductive UrlError where
  | emptyHost
  | badDomain
  | badPort
  | badIpv4
  | badIpv6
  | badHostChar
  | relative
  deriving DecidableEq

def UrlError.message : UrlError → String
  | emptyHost => "empty host"
  | badDomain => "invalid international domain name"
  | badPort => "invalid port number"
  | badIpv4 => "invalid IPv4 address"
  | badIpv6 => "invalid IPv6 address"
  | badHostChar => "invalid domain character"
  | relative => "relative URL without a base"

namespace Host

/-! ## IPv4 -/

/-- The number that a part of an IPv4 address writes, in base 8 after a zero and in base 16 after
`0x`; `none` if it writes no number. -/
def ipv4Number? (part : List Char) : Option Nat :=
  let value (base : Nat) (digits : List Char) : Option Nat :=
    digits.foldlM (fun n c => do
      let d ← Text.hexDigit? c
      if d < base then some (base * n + d) else none) 0
  match part with
  | [] => none
  | '0' :: 'x' :: digits | '0' :: 'X' :: digits => value 16 digits
  | '0' :: d :: digits => value 8 (d :: digits)
  | digits => value 10 digits

/-- The parts of a dotted text, without an empty one at its end. -/
def dottedParts (cs : List Char) : List (List Char) :=
  let parts := Text.splitChars '.' cs
  if parts.getLast? = some [] ∧ 1 < parts.length then parts.dropLast else parts

/-- Whether a domain has to be an IPv4 address, because its last part is a number. -/
def endsInNumber (cs : List Char) : Bool :=
  match (dottedParts cs).getLast? with
  | some last => (!last.isEmpty && last.all Char.isDigit) || (ipv4Number? last).isSome
  | none => false

/-- The address that up to four numbers write; the last one fills all the bytes that are left. -/
def ipv4Address? (numbers : List Nat) : Option Nat := do
  let last ← numbers.getLast?
  let front := numbers.dropLast
  if 4 < numbers.length ∨ front.any (255 < ·) ∨ Nat.pow 256 (4 - front.length) ≤ last then none
  else some (front.zipIdx.foldl (fun a p => a + p.1 * Nat.pow 256 (3 - p.2)) last)

def ipv4Text (address : Nat) : List Char :=
  let byte (k : Nat) : String := toString (address / Nat.pow 256 k % 256)
  (String.intercalate "." ([3, 2, 1, 0].map byte)).toList

/-- The normal form of an IPv4 address. -/
def ipv4 (cs : List Char) : Except UrlError (List Char) :=
  match ((dottedParts cs).mapM ipv4Number?).bind ipv4Address? with
  | some address => .ok (ipv4Text address)
  | none => .error .badIpv4

/-! ## IPv6 -/

/-- One piece of an IPv6 address: up to four hexadecimal digits. -/
def ipv6Piece? (piece : List Char) : Option Nat :=
  if piece.isEmpty ∨ 4 < piece.length then none else Text.hexValue? piece

/-- A byte of an IPv4 address inside an IPv6 address, without a zero in front. -/
def ipv4Byte? (part : List Char) : Option Nat :=
  if part.isEmpty ∨ 3 < part.length ∨ !part.all Char.isDigit then none
  else if part.length ≠ 1 ∧ part.head? = some '0' then none
  else
    let n := Text.decimalValue part
    if n < 256 then some n else none

/-- The last piece of an IPv6 address, which may be an IPv4 address and then stands for two. -/
def ipv6Last? (piece : List Char) : Option (List Nat) :=
  match (Text.splitChars '.' piece).mapM ipv4Byte? with
  | some [a, b, c, d] => some [256 * a + b, 256 * c + d]
  | _ => (ipv6Piece? piece).map ([·])

/-- Pieces with colons between them; the last one may be an IPv4 address if the text ends there. -/
def ipv6Pieces? (final : Bool) (cs : List Char) : Option (List Nat) :=
  if cs.isEmpty then some []
  else do
    let pieces := Text.splitChars ':' cs
    let front ← pieces.dropLast.mapM ipv6Piece?
    let last ← pieces.getLast?
    return front ++ (← if final then ipv6Last? last else (ipv6Piece? last).map ([·]))

/-- What stands before and after the first pair of colons. -/
def cutColons? : List Char → Option (List Char × List Char)
  | ':' :: ':' :: cs => some ([], cs)
  | c :: cs => (cutColons? cs).map fun p => (c :: p.1, p.2)
  | [] => none

/-- The eight pieces of an IPv6 address. A pair of colons stands for one zero or more. -/
def ipv6Address? (cs : List Char) : Option (List Nat) := do
  match cutColons? cs with
  | none =>
    let pieces ← ipv6Pieces? true cs
    if pieces.length = 8 then some pieces else none
  | some (before, after) =>
    let front ← ipv6Pieces? false before
    let back ← ipv6Pieces? true after
    if front.length + back.length ≤ 7 then
      some (front ++ List.replicate (8 - front.length - back.length) 0 ++ back)
    else none

/-- The length of the run of zeros at the front. -/
def zeroRun (pieces : List Nat) : Nat := (pieces.takeWhile (· == 0)).length

/-- Where the longest run of zeros begins, the first of several, and its length. -/
def longestZeroRun (pieces : List Nat) : Nat × Nat :=
  (List.range pieces.length).foldl (fun best i =>
    let n := zeroRun (pieces.drop i)
    if best.2 < n then (i, n) else best) (0, 0)

def ipv6Text (pieces : List Nat) : List Char :=
  let join (ps : List Nat) : List Char := [':'].intercalate (ps.map Text.hexText)
  let (start, length) := longestZeroRun pieces
  if length < 2 then join pieces
  else join (pieces.take start) ++ [':', ':'] ++ join (pieces.drop (start + length))

/-- The normal form of an IPv6 address, given without its brackets. -/
def ipv6 (cs : List Char) : Except UrlError (List Char) :=
  match ipv6Address? cs with
  | some pieces => .ok ('[' :: ipv6Text pieces ++ [']'])
  | none => .error .badIpv6

/-! ## Names and hosts -/

/-- The normal form of a domain name: lower case and ASCII. -/
def domain (cs : List Char) : Except UrlError (List Char) :=
  match HostName.ascii? cs with
  | some name => if name.isEmpty then .error .emptyHost else .ok name
  | none => .error .badDomain

/-- The normal form of a host of the web. -/
def parse (cs : List Char) : Except UrlError (List Char) :=
  match cs with
  | '[' :: rest =>
    if rest.getLast? = some ']' then ipv6 rest.dropLast else .error .badIpv6
  | _ =>
    match Percent.decodeText? cs with
    | none => .error .badDomain
    | some text => do
      let name ← domain text.toList
      if endsInNumber name then ipv4 name else .ok name

/-- The normal form of an opaque host. -/
def parseOpaque (cs : List Char) : Except UrlError (List Char) :=
  match cs with
  | '[' :: rest =>
    if rest.getLast? = some ']' then ipv6 rest.dropLast else .error .badIpv6
  | _ =>
    if cs.any HostName.isForbidden then .error .badHostChar
    else .ok (Percent.encode Percent.keepOpaque cs)

end Host

end DashboardRefresh
