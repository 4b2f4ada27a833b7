/-!
# Instants

An instant is a whole number of nanoseconds since the Unix epoch, within the years -262143 to
262142. Moving an instant by a span can leave that range, so it is partial.
-/

namespace DashboardRefresh

/-- A time lies outside of the range of what should hold it. -/
inductive OutOfRange where
  | outOfRange
  deriving DecidableEq

/-- Midnight of the first of January of the year -262143. -/
def Instant.earliestNanos : Int := -8334601228800 * 1000000000

/-- The last nanosecond of the year 262142. -/
def Instant.latestNanos : Int := 8210266876799 * 1000000000 + 999999999

/-- A point in time, in nanoseconds since the epoch. -/
@[ext] structure Instant where
  nanos : Int
  earliest_le : Instant.earliestNanos ≤ nanos
  le_latest : nanos ≤ Instant.latestNanos
  deriving DecidableEq

namespace Instant

instance : LE Instant := ⟨fun a b => a.nanos ≤ b.nanos⟩
instance : LT Instant := ⟨fun a b => a.nanos < b.nanos⟩
instance (a b : Instant) : Decidable (a ≤ b) := inferInstanceAs (Decidable (a.nanos ≤ b.nanos))
instance (a b : Instant) : Decidable (a < b) := inferInstanceAs (Decidable (a.nanos < b.nanos))
instance : Min Instant := ⟨fun a b => if a ≤ b then a else b⟩

theorem le_def {a b : Instant} : a ≤ b ↔ a.nanos ≤ b.nanos := Iff.rfl

theorem lt_def {a b : Instant} : a < b ↔ a.nanos < b.nanos := Iff.rfl

/-- The instant `n` nanoseconds after the epoch, if it is in range. -/
def ofNanos? (n : Int) : Option Instant :=
  if h : earliestNanos ≤ n ∧ n ≤ latestNanos then some ⟨n, h.1, h.2⟩ else none

theorem ofNanos?_eq_some {n : Int} {i : Instant} : ofNanos? n = some i ↔ i.nanos = n := by
  unfold ofNanos?
  split
  · constructor
    · rintro ⟨rfl⟩; rfl
    · intro h; congr 1; ext; exact h.symm
  · rename_i h
    refine ⟨by simp, fun e => absurd ⟨?_, ?_⟩ h⟩
    · exact e ▸ i.earliest_le
    · exact e ▸ i.le_latest

/-- The instant given by Unix seconds and the nanoseconds within the second. -/
def ofUnix? (seconds : Int) (nanos : Nat) : Option Instant :=
  if nanos < 1000000000 then ofNanos? (seconds * 1000000000 + nanos) else none

/-- The last instant there is. -/
def latest : Instant := ⟨latestNanos, by decide, by decide⟩

/-- The Unix second in which the instant lies. -/
def seconds (i : Instant) : Int := i.nanos.fdiv 1000000000

/-- The nanoseconds since the start of that second. -/
def subsecond (i : Instant) : Nat := (i.nanos.fmod 1000000000).toNat

/-- The instant `span` nanoseconds later, earlier if `span` is negative. -/
def shift? (i : Instant) (span : Int) : Option Instant := ofNanos? (i.nanos + span)

/-- The instant `span` nanoseconds later, or the error of leaving the range. -/
def shift (i : Instant) (span : Int) : Except OutOfRange Instant :=
  match i.shift? span with
  | some j => .ok j
  | none => .error .outOfRange

end Instant

end DashboardRefresh
