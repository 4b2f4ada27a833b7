import DashboardRefresh.Fetch.Error

/-!
# Batches

The outcome of running a task on each of a list of inputs: one slot per input for its value and
one for its error. The slots of inputs that were never handed out stay empty on both sides.
-/

namespace DashboardRefresh

/-- Why a batch stopped before every input was handed out. -/
inductive Interruption where
  | cancelled (dispatched total : Nat)
  | dispatcher (reason : String)
  deriving DecidableEq

def Interruption.message : Interruption → String
  | cancelled dispatched total =>
    "batch cancelled after dispatching " ++ toString dispatched ++ " of " ++ toString total ++
      " items"
  | dispatcher reason => "dispatcher failed: " ++ reason

structure Batch (ε α : Type) where
  outputs : List (Option α)
  errors : List (Option ε)
  interrupted : Option Interruption
  deriving DecidableEq

namespace Batch

variable {ε α : Type}

/-- `n` inputs, every slot empty. -/
def empty (n : Nat) : Batch ε α := ⟨List.replicate n none, List.replicate n none, none⟩

/-- Store how the task of input `i` ended. -/
def fill (b : Batch ε α) (i : Nat) : Except ε α → Batch ε α
  | .ok a => { b with outputs := b.outputs.set i (some a) }
  | .error e => { b with errors := b.errors.set i (some e) }

def size (b : Batch ε α) : Nat := b.outputs.length

def failedCount (b : Batch ε α) : Nat := b.errors.countP Option.isSome

def isInterrupted (b : Batch ε α) : Bool := b.interrupted.isSome

/-- The result of a whole batch: nothing usable if it was interrupted or every input failed, some
content missing if some failed. -/
def classify (b : Batch ε α) (what : String) : Except FetchError Unit :=
  match b.interrupted with
  | some cause => .error (.noContent cause.message)
  | none =>
    if 0 < b.size ∧ b.failedCount = b.size then
      .error (.noContent ("all " ++ toString b.size ++ " " ++ what ++ " failed"))
    else if 0 < b.failedCount then
      .error (.partialContent b.failedCount b.size what)
    else .ok ()

/-- What the two slots of an input hold, the value before the error. -/
def slot : Option α → Option ε → Option (Except ε α)
  | some a, _ => some (.ok a)
  | none, some e => some (.error e)
  | none, none => none

/-- The filled slots with their positions, in order. -/
def results (b : Batch ε α) : List (Nat × Except ε α) :=
  (List.zipWith slot b.outputs b.errors).zipIdx.filterMap fun s => s.1.map (s.2, ·)

/-- The values alone, in order. -/
def kept (b : Batch ε α) : List α := b.outputs.filterMap id

end Batch

end DashboardRefresh
