import DashboardRefresh.Proofs.Refresh.Reports
import Mathlib.Data.List.Basic
import Mathlib.Data.List.Induction
import Mathlib.Tactic.Ring

/-!
# The state as a function of its history

A refresh state is what the reports to it make of it. Each of its fields can be read off the list of
these reports: the failure streak at its end, what the last report said, when content was last
stored, and the next update by the policy and the streak. `DescribedBy` says so field by field, and
one report more takes a described state to a described state.
-/

namespace DashboardRefresh

/-- A report to a refresh state: how an update ended and when, and how many minutes local time was
ahead of universal time. -/
structure OutcomeReport where
  outcome : Outcome
  offset : Int
  now : Instant

/-- The reports to a refresh state, the first one first. -/
abbrev History := List OutcomeReport

namespace History

/-- How many failures in a row there are at the end. -/
def streak (h : History) : Nat := (h.reverse.takeWhile (·.outcome.isFailure)).length

/-- Whether there is content, from the start or by some report. -/
def hasContent (marked : Bool) (h : History) : Bool := marked || h.any (·.outcome.keepsData)

/-- The time of the last report that left content. -/
def lastStored (h : History) : Option Instant :=
  (h.reverse.find? (·.outcome.keepsData)).map (·.now)

/-- The instant of the retry that the failures at the end ask for. -/
def retry (h : History) (now : Instant) : Except OutOfRange Instant :=
  now.shift (min 5 h.streak ^ 2 * 60 * 1000000000 : Nat)

/-- The next update, or the error of leaving the range of instants: none before the first report,
the regular one after a success, and the earlier of the regular one and the retry after a failure.
A policy without regular updates has none. -/
def next (policy : CachePolicy) (h : History) : Except OutOfRange (Option Instant) :=
  match h.getLast? with
  | none => .ok none
  | some r =>
    match r.outcome with
    | .success => policy.nextUpdate r.offset r.now
    | _ => do
      let retry ← h.retry r.now
      let regular ← policy.nextUpdate r.offset r.now
      return regular.map (min retry)

/-- No report leads out of the range of instants. -/
def Fits (policy : CachePolicy) (h : History) : Prop :=
  ∀ past : History, past <+: h → ∃ next, past.next policy = .ok next

variable (h : History) (r : OutcomeReport)

theorem streak_concat :
    streak (h ++ [r]) = if r.outcome.isFailure then h.streak + 1 else 0 := by
  unfold streak
  rw [List.reverse_append, List.reverse_singleton, List.singleton_append, List.takeWhile_cons]
  split <;> simp

/-- There is no streak exactly when the last report, if any, was no failure. -/
theorem streak_eq_zero_iff {h : History} :
    h.streak = 0 ↔ ∀ r ∈ h.getLast?, r.outcome.isFailure = false := by
  induction h using List.reverseRecOn with
  | nil => simp [streak]
  | append_singleton h r _ =>
    rw [streak_concat, List.getLast?_concat]
    cases hr : r.outcome.isFailure <;> simp [hr]

theorem hasContent_concat (marked : Bool) :
    hasContent marked (h ++ [r]) = (h.hasContent marked || r.outcome.keepsData) := by
  simp [hasContent, Bool.or_assoc]

theorem lastStored_concat :
    lastStored (h ++ [r]) = if r.outcome.keepsData then some r.now else h.lastStored := by
  unfold lastStored
  rw [List.reverse_append, List.reverse_singleton, List.singleton_append, List.find?_cons]
  split
  · rename_i hkeeps
    rw [hkeeps]
    rfl
  · rename_i hkeeps
    rw [hkeeps]
    rfl

theorem fits_concat {policy : CachePolicy} :
    Fits policy (h ++ [r]) ↔ h.Fits policy ∧ ∃ next, History.next policy (h ++ [r]) = .ok next := by
  constructor
  · intro hfits
    exact ⟨fun past hpast => hfits past (hpast.trans (List.prefix_append h [r])),
      hfits _ (List.prefix_refl _)⟩
  · rintro ⟨hfits, hlast⟩ past hpast
    rcases List.prefix_concat_iff.1 hpast with rfl | hpast
    · exact hlast
    · exact hfits past hpast

end History

namespace RefreshState

/-- A state before any report, with content from the start if it is marked. -/
def start (policy : CachePolicy) (marked : Bool) : RefreshState :=
  if marked then (initial policy).withContent else initial policy

/-- The state after some reports, unless one of them leads out of the range of instants. -/
def absorb (s : RefreshState) : History → Option RefreshState
  | [] => some s
  | r :: rest =>
    let reported := s.report r.outcome r.offset r.now
    if reported.complete then reported.state.absorb rest else none

theorem absorb_append (s : RefreshState) (earlier later : History) :
    s.absorb (earlier ++ later) = (s.absorb earlier).bind (·.absorb later) := by
  induction earlier generalizing s with
  | nil => rfl
  | cons r earlier ih =>
    simp only [List.cons_append, absorb]
    split
    · exact ih _
    · rfl

/-- The state is what its history makes of it. -/
structure DescribedBy (policy : CachePolicy) (marked : Bool) (h : History) (s : RefreshState) :
    Prop where
  policy_eq : s.policy = policy
  retryCount_eq : s.retryCount = min 5 h.streak
  lastError_eq : s.lastError = h.getLast?.bind (·.outcome.error?)
  lastNotice_eq : s.lastNotice = h.getLast?.bind (·.outcome.notice?)
  contentAvailable_eq : s.contentAvailable = h.hasContent marked
  lastUpdated_eq : s.lastUpdated = h.lastStored
  next_eq : h.next policy = .ok s.nextUpdate

theorem start_describedBy (policy : CachePolicy) (marked : Bool) :
    (start policy marked).DescribedBy policy marked [] := by
  cases marked <;> exact ⟨rfl, rfl, rfl, rfl, rfl, rfl, rfl⟩

variable {policy : CachePolicy} {marked : Bool} {h : History} {s : RefreshState}

/-- The streak that a failure leaves, counted up to five. -/
theorem DescribedBy.countFailure_eq (hs : s.DescribedBy policy marked h) {r : OutcomeReport}
    (hr : r.outcome.isFailure) :
    s.countFailure.retryCount = min 5 (History.streak (h ++ [r])) := by
  rw [History.streak_concat, if_pos hr]
  simp only [countFailure, maxRetryCount, hs.retryCount_eq]
  omega

/-- A report computes the next update as the history has it. -/
theorem DescribedBy.schedule_eq (hs : s.DescribedBy policy marked h) (r : OutcomeReport) :
    (s.record r.outcome r.now).schedule r.outcome r.offset r.now =
      History.next policy (h ++ [r]) := by
  have hretry (hr : r.outcome.isFailure) :
      (s.countFailure.retryMinutes * 60 * 1000000000 : Int) =
        (min 5 (History.streak (h ++ [r])) ^ 2 * 60 * 1000000000 : Nat) := by
    rw [retryMinutes, hs.countFailure_eq hr]
    push_cast
    ring
  obtain ⟨outcome, offset, now⟩ := r
  unfold History.next
  rw [List.getLast?_concat]
  cases outcome with
  | success => simp [record, schedule, hs.policy_eq]
  | partialFailure | totalFailure =>
    rw [schedule_of_isFailure rfl, hretry rfl, hs.policy_eq]
    rfl

theorem DescribedBy.complete_iff (hs : s.DescribedBy policy marked h) (r : OutcomeReport) :
    (s.report r.outcome r.offset r.now).complete ↔
      ∃ next, History.next policy (h ++ [r]) = .ok next := by
  unfold report
  dsimp only
  rw [hs.schedule_eq r]
  cases History.next policy (h ++ [r]) <;> simp

/-- One report more. -/
theorem DescribedBy.report (hs : s.DescribedBy policy marked h) {r : OutcomeReport}
    {next : Option Instant} (hnext : History.next policy (h ++ [r]) = .ok next) :
    (s.report r.outcome r.offset r.now).state.DescribedBy policy marked (h ++ [r]) where
  policy_eq := report_policy.trans hs.policy_eq
  retryCount_eq := by
    rw [report_retryCount]
    cases hr : r.outcome.isFailure with
    | true => exact hs.countFailure_eq hr
    | false =>
      rw [History.streak_concat, hr]
      rfl
  lastError_eq := by rw [report_lastError, List.getLast?_concat, Option.bind_some]
  lastNotice_eq := by rw [report_lastNotice, List.getLast?_concat, Option.bind_some]
  contentAvailable_eq := by
    rw [report_contentAvailable, History.hasContent_concat, hs.contentAvailable_eq, Bool.or_comm]
  lastUpdated_eq := by
    rw [report_lastUpdated, History.lastStored_concat, hs.lastUpdated_eq]
  next_eq := by
    rw [report_nextUpdate ((hs.schedule_eq r).trans hnext)]
    exact hnext

/-- Reports that stay in range lead to the state that they describe. -/
theorem absorb_start (policy : CachePolicy) (marked : Bool) {h : History} (hfits : h.Fits policy) :
    ∃ s, (start policy marked).absorb h = some s ∧ s.DescribedBy policy marked h := by
  induction h using List.reverseRecOn with
  | nil => exact ⟨_, rfl, start_describedBy policy marked⟩
  | append_singleton h r ih =>
    obtain ⟨hearlier, next, hnext⟩ := (History.fits_concat h r).1 hfits
    obtain ⟨s, habsorb, hs⟩ := ih hearlier
    refine ⟨_, ?_, hs.report hnext⟩
    rw [absorb_append, habsorb, Option.bind_some, absorb, absorb]
    exact if_pos ((hs.complete_iff r).2 ⟨next, hnext⟩)

/-- Reports that lead to a state stay in range. -/
theorem fits_of_absorb {policy : CachePolicy} {marked : Bool} {h : History} {s : RefreshState}
    (habsorb : (start policy marked).absorb h = some s) : h.Fits policy := by
  induction h using List.reverseRecOn generalizing s with
  | nil =>
    intro past hpast
    rw [List.prefix_nil.1 hpast]
    exact ⟨none, rfl⟩
  | append_singleton h r ih =>
    rw [absorb_append, Option.bind_eq_some_iff] at habsorb
    obtain ⟨t, hearlier, hlast⟩ := habsorb
    have hfits := ih hearlier
    obtain ⟨t', hearlier', ht⟩ := absorb_start policy marked hfits
    obtain rfl := Option.some.inj (hearlier.symm.trans hearlier')
    refine (History.fits_concat h r).2 ⟨hfits, (ht.complete_iff r).1 ?_⟩
    unfold absorb at hlast
    dsimp only at hlast
    by_contra hincomplete
    rw [if_neg hincomplete] at hlast
    exact absurd hlast (by simp)

section Verdict

variable (hs : s.DescribedBy policy marked h)
include hs

/-- The last report leaves an error or a notice, never both. -/
theorem DescribedBy.not_error_and_notice : ¬ (s.lastError.isSome ∧ s.lastNotice.isSome) := by
  rw [hs.lastError_eq, hs.lastNotice_eq]
  rintro ⟨herror, hnotice⟩
  cases hlast : h.getLast? with
  | none => simp [hlast] at herror
  | some r =>
    rw [hlast, Option.bind_some] at herror hnotice
    rcases r.outcome.error?_eq_none_or_notice?_eq_none with hnone | hnone
    · simp [hnone] at herror
    · simp [hnone] at hnotice

/-- There is neither an error nor a notice exactly when no failure is counted. -/
theorem DescribedBy.retryCount_eq_zero_iff :
    s.retryCount = 0 ↔ s.lastError = none ∧ s.lastNotice = none := by
  have hstreak : s.retryCount = 0 ↔ h.streak = 0 := by
    rw [hs.retryCount_eq]
    omega
  rw [hstreak, History.streak_eq_zero_iff, hs.lastError_eq, hs.lastNotice_eq]
  cases h.getLast? with
  | none => simp
  | some r => simpa using r.outcome.isFailure_eq_false_iff

end Verdict

/-- Some reports lead to a state exactly when they stay in range, and every field of that state is
what the history says. In particular there is an error or a notice but never both, and neither
exactly when no failure is counted. -/
theorem absorb_eq_history (policy : CachePolicy) (marked : Bool) (h : History) :
    ((∃ s, (start policy marked).absorb h = some s) ↔ h.Fits policy) ∧
      ∀ s, (start policy marked).absorb h = some s →
        s.DescribedBy policy marked h ∧
        (s.contentAvailable ↔ marked ∨ ∃ r ∈ h, r.outcome.keepsData) ∧
        ¬ (s.lastError.isSome ∧ s.lastNotice.isSome) ∧
        (s.retryCount = 0 ↔ s.lastError = none ∧ s.lastNotice = none) := by
  constructor
  · constructor
    · rintro ⟨s, habsorb⟩
      exact fits_of_absorb habsorb
    · intro hfits
      obtain ⟨s, habsorb, _⟩ := absorb_start policy marked hfits
      exact ⟨s, habsorb⟩
  · intro s habsorb
    obtain ⟨t, habsorb', ht⟩ := absorb_start policy marked (fits_of_absorb habsorb)
    obtain rfl := Option.some.inj (habsorb.symm.trans habsorb')
    refine ⟨ht, ?_, ht.not_error_and_notice, ht.retryCount_eq_zero_iff⟩
    rw [ht.contentAvailable_eq]
    simp [History.hasContent]

/-- A success at the epoch, and a failure at each of the two minutes after it. -/
def outage : History :=
  [⟨.success, 0, .epoch⟩,
    ⟨.partialFailure (.partialContent 1 2 "releases"), 0, ⟨60000000000, by decide, by decide⟩⟩,
    ⟨.totalFailure (.noContent "down"), 0, ⟨120000000000, by decide, by decide⟩⟩]

theorem absorb_eq_history_outage :
    ∃ s, (start (.fixed (.ofSeconds 3600)) false).absorb outage = some s ∧ s.retryCount = 2 ∧
      s.lastError = some (.noContent "down") ∧ s.lastNotice = none ∧ s.contentAvailable := by
  have hsome : ((start (.fixed (.ofSeconds 3600)) false).absorb outage).isSome := by decide
  obtain ⟨s, habsorb⟩ := Option.isSome_iff_exists.1 hsome
  obtain ⟨hs, hcontent, _⟩ :=
    (absorb_eq_history (.fixed (.ofSeconds 3600)) false outage).2 s habsorb
  exact ⟨s, habsorb, hs.retryCount_eq, hs.lastError_eq, hs.lastNotice_eq,
    hcontent.2 (.inr ⟨_, List.mem_cons_self, rfl⟩)⟩

end RefreshState

end DashboardRefresh
