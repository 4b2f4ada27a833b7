import DashboardRefresh.Proofs.Fetch.Attempts
import DashboardRefresh.Widget.Leaf

/-!
# Storing the results of a batch

The results of a batch of checks reach the sites by their positions, whatever the order in which
they are stored. A batch of checks that was not interrupted gives every site a status and has no
failures. A batch of lookups that leaves content has at least one release, and so does the list
after it, which is never cut to nothing.
-/

namespace DashboardRefresh

namespace Batch

variable {ε α : Type}

/-- What the slots of an input hold, if anything. -/
def slotAt (b : Batch ε α) (i : Nat) : Option (Except ε α) :=
  (List.zipWith slot b.outputs b.errors)[i]?.join

theorem slotAt_of_outputs {b : Batch ε α} {i : Nat} {a : α} (ha : b.outputs[i]? = some (some a))
    (hlength : b.errors.length = b.outputs.length) : b.slotAt i = some (.ok a) := by
  obtain ⟨hi, _⟩ := List.getElem?_eq_some_iff.1 ha
  obtain ⟨e, he⟩ : ∃ e, b.errors[i]? = some e :=
    ⟨_, List.getElem?_eq_getElem (hlength ▸ hi)⟩
  simp [slotAt, List.getElem?_zipWith, ha, he, slot]

theorem length_inTurn (tasks : List (Task ε α)) :
    (inTurn tasks).errors.length = (inTurn tasks).outputs.length := by
  rw [inTurn_errors, inTurn_outputs, List.length_map, List.length_map]

end Batch

section Attempts

variable {ε α : Type} {workers : Nat} {cancellation : Cancellation}
  {attempts : List (Attempt (Except ε α))}

/-- Attempts that all give a value are a batch without failures. -/
theorem runAttempts_failedCount_eq_zero
    (hnone : (runAttempts workers cancellation attempts).batch.interrupted = none)
    (hok : ∀ a ∈ attempts, a.result.isOk) :
    (runAttempts workers cancellation attempts).batch.failedCount = 0 := by
  rw [runAttempts_batch hnone, Batch.failedCount, Batch.inTurn_errors, List.countP_eq_zero]
  simp only [List.map_map, List.mem_map]
  rintro _ ⟨a, ha, rfl⟩
  rw [Function.comp_apply, Attempt.task_error?_eq_none.2 (hok a ha)]
  exact Bool.false_ne_true

/-- A batch that was not interrupted holds the value that an attempt gave at its position. -/
theorem runAttempts_slotAt
    (hnone : (runAttempts workers cancellation attempts).batch.interrupted = none) {i : Nat}
    {a : Attempt (Except ε α)} {value : α} (ha : attempts[i]? = some a)
    (hresult : a.result = .ok value) :
    (runAttempts workers cancellation attempts).batch.slotAt i = some (.ok value) := by
  apply Batch.slotAt_of_outputs
  · rw [runAttempts_outputs hnone, List.getElem?_map, ha, Option.map_some, hresult]
    rfl
  · rw [runAttempts_batch hnone, Batch.length_inTurn]

end Attempts

namespace Monitor

/-- One result changes the site at its position. -/
theorem storeStatus_sites_getElem? (m : Monitor) (k i : Nat)
    (result : Except FetchError SiteStatus) :
    (m.storeStatus (k, result)).sites[i]? =
      m.sites[i]?.map fun site => if k = i then site.record result else site := by
  unfold storeStatus
  rw [List.getElem?_modify]
  cases m.sites[i]? with
  | none => rfl
  | some site =>
    rw [Option.map_some]
    split <;> rfl

/-- The results of some slots, the first of which belongs to position `k`, change the sites from
that position on. -/
theorem foldl_storeStatus_getElem? (slots : List (Option (Except FetchError SiteStatus)))
    (k : Nat) (m : Monitor) (i : Nat) :
    (((slots.zipIdx k).filterMap fun s => s.1.map (s.2, ·)).foldl storeStatus m).sites[i]? =
      m.sites[i]?.map fun site =>
        if k ≤ i then slots[i - k]?.join.elim site site.record else site := by
  -- The induction is on the slots that are left, stored into what the ones before them made of `m`.
  induction slots generalizing k m with
  | nil => simp
  | cons slot slots ih =>
    have hnext (site : MonitoredSite) (hi : k < i) :
        (slot :: slots)[i - k]?.join.elim site site.record =
          slots[i - (k + 1)]?.join.elim site site.record := by
      obtain ⟨j, rfl⟩ := Nat.exists_eq_add_of_lt hi
      rw [show k + j + 1 - k = j + 1 by omega, show k + j + 1 - (k + 1) = j by omega,
        List.getElem?_cons_succ]
    rw [List.zipIdx_cons]
    cases slot with
    | none =>
      rw [List.filterMap_cons_none rfl, ih]
      congr 1
      funext site
      rcases Nat.lt_trichotomy i k with hi | rfl | hi
      · rw [if_neg (by omega), if_neg (by omega)]
      · rw [if_neg (by omega), if_pos le_rfl, Nat.sub_self]
        rfl
      · rw [if_pos (by omega), if_pos hi.le, hnext site hi]
    | some result =>
      simp only [List.filterMap_cons, Option.map_some, List.foldl_cons]
      rw [ih, storeStatus_sites_getElem?, Option.map_map]
      congr 1
      funext site
      rw [Function.comp_apply]
      rcases Nat.lt_trichotomy i k with hi | rfl | hi
      · rw [if_neg (by omega), if_neg (by omega), if_neg (by omega)]
      · rw [if_neg (by omega), if_pos rfl, if_pos le_rfl, Nat.sub_self]
        rfl
      · rw [if_pos (by omega), if_neg (by omega), if_pos hi.le, hnext site hi]

/-- A batch changes each site by what it holds at the position of the site. -/
theorem store_sites_getElem? (m : Monitor) (b : Batch FetchError SiteStatus) (i : Nat) :
    (m.store b).sites[i]? = m.sites[i]?.map fun site => (b.slotAt i).elim site site.record := by
  have h := foldl_storeStatus_getElem? (List.zipWith Batch.slot b.outputs b.errors) 0 m i
  simpa [store, Batch.results, Batch.slotAt] using h

variable {m : Monitor} {network : Network} {cancellation : Cancellation}

/-- No check of a site fails as a task. -/
theorem check_failedCount
    (hnone : (m.check network cancellation).batch.interrupted = none) :
    (m.check network cancellation).batch.failedCount = 0 :=
  runAttempts_failedCount_eq_zero hnone (List.forall_mem_map.2 fun _ _ => rfl)

/-- A batch of checks that was not interrupted holds the status of each site at its position. -/
theorem slotAt_check (hnone : (m.check network cancellation).batch.interrupted = none) {i : Nat}
    {site : MonitoredSite} (hsite : m.sites[i]? = some site) :
    (m.check network cancellation).batch.slotAt i =
      some (.ok (site.config.check network).result) := by
  refine runAttempts_slotAt (a := (site.config.check network).map .ok) hnone ?_ rfl
  rw [List.getElem?_map, hsite]
  rfl

/-- Such a batch gives every site a status. -/
theorem isSome_status_of_store_check
    (hnone : (m.check network cancellation).batch.interrupted = none) :
    ∀ site ∈ (m.store (m.check network cancellation).batch).sites, site.status.isSome := by
  intro site hsite
  obtain ⟨i, hi⟩ := List.getElem?_of_mem hsite
  rw [store_sites_getElem?, Option.map_eq_some_iff] at hi
  obtain ⟨before, hbefore, rfl⟩ := hi
  rw [slotAt_check hnone hbefore]
  rfl

end Monitor

namespace ReleaseList

theorem select_ne_nil {limit : Nat} {releases : List Release} (hlimit : limit ≠ 0)
    (hreleases : releases ≠ []) : select limit releases ≠ [] := by
  have hlength : (releases.mergeSort mayPrecede).length = releases.length :=
    List.length_mergeSort releases
  unfold select
  rw [ne_eq, List.take_eq_nil_iff, not_or]
  refine ⟨hlimit, fun hnil => hreleases ?_⟩
  rw [hnil, List.length_nil] at hlength
  exact List.eq_nil_of_length_eq_zero hlength.symm

end ReleaseList

end DashboardRefresh
