import DashboardRefresh.Proofs.Fetch.Attempts

/-!
# The requests of a batch

A batch sends the requests of the attempts that were started, in their order. Which ones are started
is decided by how long the attempts take and how they end, and not by what they send. So two batches
whose attempts differ in their requests only make the same of them, and send their requests for the
same things.
-/

namespace DashboardRefresh

variable {ι κ ε α : Type}

/-- All that a job makes of its inputs are their tasks. -/
theorem Job.execute_congr {job : Job ι ε α} {other : Job κ ε α}
    (hrequested : other.requested = job.requested)
    (htasks : other.inputs.map other.task = job.inputs.map job.task) (cancellation : Cancellation) :
    other.execute cancellation = job.execute cancellation := by
  have hlength : other.inputs.length = job.inputs.length := by
    simpa only [List.length_map] using congrArg List.length htasks
  have hworkers := workers_congr hrequested hlength
  cases cancellation with
  | never => rw [execute_never_eq_pool, execute_never_eq_pool, htasks, hworkers]
  | atMillis c => rw [execute_atMillis_eq_pool, execute_atMillis_eq_pool, htasks, hworkers]
  | before =>
    by_cases hnil : job.inputs = []
    · have hother : other.inputs = [] := by
        rw [← List.length_eq_zero_iff, hlength, hnil, List.length_nil]
      rw [execute_nil hnil, execute_nil hother]
    · have hother : other.inputs ≠ [] := by
        rwa [← List.length_pos_iff, hlength, List.length_pos_iff]
      rw [execute_before hnil, execute_before hother, hlength]

/-! ## What is sent for what -/

/-- The requests that are sent for those of some keys that were started. -/
def requestsFor (request? : κ → Option Request) :
    List κ → List (Option Nat) → List (κ × Request)
  | key :: keys, start :: starts =>
    (start.bind fun _ => (request? key).map (Prod.mk key)).toList ++
      requestsFor request? keys starts
  | _, _ => []

section RequestsFor

variable {request? other? : κ → Option Request} {keys : List κ} {starts : List (Option Nat)}

theorem requestsFor_cons_none (key : κ) :
    requestsFor request? (key :: keys) (none :: starts) = requestsFor request? keys starts := rfl

theorem requestsFor_cons_some (key : κ) (time : Nat) :
    requestsFor request? (key :: keys) (some time :: starts) =
      ((request? key).map (Prod.mk key)).toList ++ requestsFor request? keys starts := rfl

theorem requestsFor_map_snd (request? : κ → Option Request) (keys : List κ)
    (starts : List (Option Nat)) : (requestsFor request? keys starts).map (·.2) =
      (List.zipWith (fun key start => start.bind fun _ => request? key) keys starts).filterMap
        id := by
  induction keys generalizing starts with
  | nil => rfl
  | cons key keys ih =>
    cases starts with
    | nil => rfl
    | cons start starts =>
      cases start with
      | none => simpa [requestsFor_cons_none] using ih starts
      | some time =>
        rw [requestsFor_cons_some]
        cases hrequest : request? key <;> simp [hrequest, ih starts]

/-- The requests stand in the order of their keys. -/
theorem requestsFor_keys_sublist :
    ((requestsFor request? keys starts).map (·.1)).Sublist keys := by
  induction keys generalizing starts with
  | nil => exact List.Sublist.refl _
  | cons key keys ih =>
    cases starts with
    | nil => exact List.nil_sublist _
    | cons start starts =>
      cases start with
      | none => exact ih.cons _
      | some time =>
        rw [requestsFor_cons_some]
        cases request? key with
        | none => exact ih.cons _
        | some r => exact ih.cons_cons _

/-- Requests for the same key, in two batches. -/
structure SameKey (request? other? : κ → Option Request) (p q : κ × Request) : Prop where
  key_eq : q.1 = p.1
  request?_eq : request? p.1 = some p.2
  other?_eq : other? q.1 = some q.2

/-- Keys that have a request in both of two batches get them in both or in none. -/
theorem requestsFor_sameKey (h : ∀ key ∈ keys, (other? key).isSome = (request? key).isSome) :
    List.Forall₂ (SameKey request? other?) (requestsFor request? keys starts)
      (requestsFor other? keys starts) := by
  induction keys generalizing starts with
  | nil => exact .nil
  | cons key keys ih =>
    cases starts with
    | nil => exact .nil
    | cons start starts =>
      have hrest : List.Forall₂ (SameKey request? other?) (requestsFor request? keys starts)
          (requestsFor other? keys starts) := ih fun k hk => h k (List.mem_cons_of_mem key hk)
      cases start with
      | none => exact hrest
      | some time =>
        have hboth := h key List.mem_cons_self
        rw [requestsFor_cons_some, requestsFor_cons_some]
        cases hrequest : request? key with
        | none =>
          rw [hrequest, Option.isSome_none, Option.isSome_eq_false_iff, Option.isNone_iff_eq_none]
            at hboth
          rw [hboth]
          exact hrest
        | some r =>
          rw [hrequest, Option.isSome_some, Option.isSome_iff_exists] at hboth
          obtain ⟨r', hother⟩ := hboth
          rw [hother]
          exact .cons ⟨rfl, hrequest, hother⟩ hrest

theorem request?_of_mem_requestsFor {p : κ × Request} (hp : p ∈ requestsFor request? keys starts) :
    request? p.1 = some p.2 := by
  obtain ⟨i, hi, rfl⟩ := List.getElem_of_mem hp
  exact ((List.forall₂_iff_get.1 (requestsFor_sameKey fun _ _ => rfl)).2 i hi hi).request?_eq

end RequestsFor

/-! ## Batches -/

section Runs

variable {workers : Nat} {cancellation : Cancellation}
  {attempts others : List (Attempt (Except ε α))}

/-- When the attempts of a batch are started. -/
def startsOf (workers : Nat) (cancellation : Cancellation)
    (attempts : List (Attempt (Except ε α))) : List (Option Nat) :=
  match (Job.ofAttempts workers attempts).execute cancellation with
  | .returned report => report.started
  | _ => []

theorem runAttempts_sent (workers : Nat) (cancellation : Cancellation) (keys : List κ)
    (attempt : κ → Attempt (Except ε α)) :
    (runAttempts workers cancellation (keys.map attempt)).sent =
      (requestsFor (fun key => (attempt key).sent) keys
        (startsOf workers cancellation (keys.map attempt))).map (·.2) := by
  rw [requestsFor_map_snd]
  unfold runAttempts startsOf
  cases (Job.ofAttempts workers (keys.map attempt)).execute cancellation with
  | returned => exact congrArg (List.filterMap id) List.zipWith_map_left
  | crashed | waitsForEver => simp

variable (htasks : others.map Attempt.task = attempts.map Attempt.task)
include htasks

theorem execute_ofAttempts_congr : (Job.ofAttempts workers others).execute cancellation =
    (Job.ofAttempts workers attempts).execute cancellation := by
  have hrequested : (Job.ofAttempts workers others).requested =
      (Job.ofAttempts workers attempts).requested := rfl
  exact Job.execute_congr hrequested htasks cancellation

theorem startsOf_congr : startsOf workers cancellation others =
    startsOf workers cancellation attempts := by
  unfold startsOf
  rw [execute_ofAttempts_congr htasks]

/-- Attempts that end alike make the same batch, whatever they send. -/
theorem runAttempts_congr
    (hconnected : others.map (·.connected) = attempts.map (·.connected)) :
    runAttempts workers cancellation others =
      { runAttempts workers cancellation attempts with
        sent := (runAttempts workers cancellation others).sent } := by
  have hlength : others.length = attempts.length := by
    simpa only [List.length_map] using congrArg List.length htasks
  have hany : others.any (·.connected) = attempts.any (·.connected) := by
    simpa only [List.any_map, Function.id_comp] using congrArg (·.any id) hconnected
  unfold runAttempts
  rw [execute_ofAttempts_congr htasks]
  split
  · rw [hlength, hany]
  · rw [hlength]

end Runs

end DashboardRefresh
