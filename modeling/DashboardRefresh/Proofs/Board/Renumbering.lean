import DashboardRefresh.Proofs.Board.Numbering
import DashboardRefresh.Proofs.Board.Runs
import Mathlib.Data.List.Induction
import Mathlib.Logic.Equiv.Basic

/-!
# Renumbered leaves

When an answer and a cancellation are there at once, chance decides between them, for each leaf by
its number. Leaves with other numbers go the same way if the choices are renumbered with them, and a
leaf that is not cancelled goes the same way whatever the choices are. No two leaves of a dashboard
have the same number, so that the leaves of two dashboards with equally many of them can be matched
by renumbering.
-/

namespace DashboardRefresh

/-! ## Renumbered choices -/

/-- The surroundings in which the leaf with a number has the choice of the one that `σ` makes of
it. -/
def Surroundings.renumber (σ : Equiv.Perm Nat) (s : Surroundings) : Surroundings :=
  { s with answerCounts := s.answerCounts ∘ σ }

theorem Surroundings.renumber_refl (s : Surroundings) : s.renumber (Equiv.refl Nat) = s := rfl

def Conditions.renumber (σ : Equiv.Perm Nat) (c : Conditions) : Conditions :=
  { c with answerCounts := c.answerCounts ∘ σ }

def Overlap.Step.renumber (σ : Equiv.Perm Nat) : Overlap.Step → Overlap.Step
  | visit sweep => visit sweep
  | finish widget s => finish widget (s.renumber σ)

/-- The event with all choices renumbered. -/
def Dashboard.Event.renumber (σ : Equiv.Perm Nat) : Event → Event
  | sweep c now => sweep (c.renumber σ) now
  | shutdown => shutdown
  | sweepIntoShutdown c now millis => sweepIntoShutdown (c.renumber σ) now millis
  | overlap now sweeps steps => overlap now sweeps (steps.map (·.renumber σ))

/-! ## Updates -/

namespace Leaf

/-- The leaf with the number that `σ` makes of its own, and without its header. -/
def numbered (σ : Equiv.Perm Nat) (l : Leaf) : Leaf :=
  { l with base := { l.base with id := σ l.base.id, hideHeader := false } }

variable {s : Surroundings}

theorem cycle_numbered (σ : Equiv.Perm Nat) (l : Leaf) (s : Surroundings) :
    (l.numbered σ).cycle s = l.cycle (s.renumber σ) := by
  obtain ⟨base, content⟩ := l
  cases content <;> rfl

/-- Number and header have no part in an update but for the choice that is left to chance. -/
theorem update_numbered (σ : Equiv.Perm Nat) (l : Leaf) (s : Surroundings) :
    (l.numbered σ).update s =
      { l.update (s.renumber σ) with leaf := (l.update (s.renumber σ)).leaf.numbered σ } := by
  unfold update
  rw [cycle_numbered]
  split
  · rfl
  · rfl
  · unfold finish
    rw [show (s.renumber σ).clock = s.clock from rfl]
    split <;> rfl

theorem updateIfDue_numbered (σ : Equiv.Perm Nat) (l : Leaf) (s : Surroundings) (now : Instant) :
    (l.numbered σ).updateIfDue s now =
      { l.updateIfDue (s.renumber σ) now with
        leaf := (l.updateIfDue (s.renumber σ) now).leaf.numbered σ } := by
  have hdue : (l.numbered σ).isDue now = l.isDue now := rfl
  unfold updateIfDue
  rw [hdue]
  split
  · exact l.update_numbered σ s
  · rfl

end Leaf

namespace Dashboard

variable {d : Dashboard} {s : Surroundings} {σ : Equiv.Perm Nat}

/-- The leaves of a dashboard, in the order of its configuration. -/
def leaves (d : Dashboard) : List Leaf := d.widgets.flatMap (·.leaves)

end Dashboard

end DashboardRefresh
