import DashboardRefresh.Proofs.Refresh.History

/-!
# How long a state waits

A state whose policy asks for updates is due after the time that its last report left to wait, and
at once before any report. After a success that is the regular update, a fixed time later or at the
next full hour; after some failures in a row it is the retry, if that comes earlier. No wait ends
before the report that began it, and none after a failure is longer than 25 minutes.
-/

namespace DashboardRefresh

namespace Instant

theorem nanos_min (a b : Instant) : (min a b).nanos = min a.nanos b.nanos := by
  change (if a ≤ b then a else b).nanos = _
  simp only [le_def]
  split <;> omega

end Instant

/-! ## Regular updates -/

namespace CachePolicy

/-- The clock `offset` minutes ahead of universal time shows a full hour. -/
def IsFullHour (offset : Int) (i : Instant) : Prop :=
  hourNanos ∣ i.nanos + offset * 60 * 1000000000

/-- The regular update after one at `now` is that at `next`: a fixed time later, but not later than
the last instant, or at the first full hour after `now`. -/
inductive IsRegular (offset : Int) (now next : Instant) : CachePolicy → Prop
  | fixed {every : Duration}
      (hnext : next.nanos = min (now.nanos + every.toNanos) Instant.latestNanos) :
      IsRegular offset now next (.fixed every)
  | hourly (hlt : now < next) (hhour : IsFullHour offset next)
      (hfirst : ∀ other : Instant, now < other → IsFullHour offset other → next ≤ other) :
      IsRegular offset now next .hourly

variable {policy : CachePolicy} {offset : Int} {now next : Instant}

theorem IsRegular.le (h : policy.IsRegular offset now next) : now ≤ next := by
  rw [Instant.le_def]
  cases h with
  | fixed hnext =>
    have hlatest := now.le_latest
    omega
  | hourly hlt =>
    rw [Instant.lt_def] at hlt
    exact hlt.le

theorem IsRegular.unique {next' : Instant} (h : policy.IsRegular offset now next)
    (h' : policy.IsRegular offset now next') : next = next' := by
  ext
  cases h with
  | fixed hnext =>
    cases h' with
    | fixed hnext' => rw [hnext, hnext']
  | hourly hlt hhour hfirst =>
    cases h' with
    | hourly hlt' hhour' hfirst' =>
      have hle := hfirst next' hlt' hhour'
      have hle' := hfirst' next hlt hhour
      rw [Instant.le_def] at hle hle'
      omega

/-- A fixed time that leads out of range leads to the last instant. -/
theorem afterFixed_nanos (every : Duration) (now : Instant) :
    (afterFixed every now).nanos = min (now.nanos + every.toNanos) Instant.latestNanos := by
  have hearliest := now.earliest_le
  -- The longest span leads out of range from every instant, so that nothing is lost by the cut.
  have hspan : Instant.latestNanos - Instant.earliestNanos < longestSpan := by decide
  let span : Nat := min every.toNanos longestSpan
  by_cases hlatest : now.nanos + span ≤ Instant.latestNanos
  · have hshift : now.shift? span = some ⟨now.nanos + span, by omega, hlatest⟩ :=
      Instant.ofNanos?_eq_some.2 rfl
    have hafter : afterFixed every now = ⟨now.nanos + span, by omega, hlatest⟩ :=
      (congrArg (·.getD Instant.latest) hshift).trans rfl
    rw [hafter]
    change now.nanos + span = _
    omega
  · have hshift : now.shift? span = none := dif_neg fun h => hlatest h.2
    have hafter : afterFixed every now = Instant.latest :=
      (congrArg (·.getD Instant.latest) hshift).trans rfl
    rw [hafter]
    change Instant.latestNanos = _
    omega

/-- The start of the local hour after that of an inner instant is the first full hour after it. -/
theorem exists_isRegular_hourly (offset : Int) (hnow : now.IsInner) :
    ∃ next, nextHour offset now = .ok next ∧ hourly.IsRegular offset now next := by
  obtain ⟨next, hnext, hnanos⟩ := exists_nextHour offset hnow
  have hlt : intoHour offset now < hourNanos := intoHour_lt
  refine ⟨next, hnext, .hourly ?_ ?_ ?_⟩
  · rw [Instant.lt_def]
    omega
  · unfold IsFullHour
    rw [hnanos]
    unfold intoHour hourNanos
    omega
  · intro other hother hhour
    rw [Instant.lt_def] at hother
    rw [Instant.le_def, hnanos]
    unfold IsFullHour at hhour
    unfold intoHour hourNanos at *
    omega

/-- A policy that asks for updates has a regular one after every inner instant. -/
theorem exists_isRegular (hnever : policy.isNever = false) (offset : Int) (hnow : now.IsInner) :
    ∃ next, policy.nextUpdate offset now = .ok (some next) ∧ policy.IsRegular offset now next := by
  cases policy with
  | never => cases hnever
  | fixed every => exact ⟨afterFixed every now, rfl, .fixed (afterFixed_nanos every now)⟩
  | hourly =>
    obtain ⟨next, hnext, hregular⟩ := exists_isRegular_hourly offset hnow
    exact ⟨next, congrArg (·.map some) hnext, hregular⟩

end CachePolicy

/-! ## Limits -/

namespace History

/-- The nanoseconds from the last report to the retry that the failures at the end ask for: as many
minutes as the square of their number says, which counts up to five. -/
def backoff (h : History) : Nat := min 5 h.streak ^ 2 * 60 * 1000000000

/-- The instant must be over before the next update: it is the regular update after the last report,
or the retry if that report was a failure and the retry is earlier. -/
def IsLimit (policy : CachePolicy) (h : History) (limit : Instant) : Prop :=
  ∃ r ∈ h.getLast?, ∃ regular, policy.IsRegular r.offset r.now regular ∧
    limit.nanos =
      if r.outcome.isFailure then min regular.nanos (r.now.nanos + h.backoff) else regular.nanos

variable {policy : CachePolicy} {h : History} {limit : Instant}

theorem IsLimit.unique {limit' : Instant} (hlimit : h.IsLimit policy limit)
    (hlimit' : h.IsLimit policy limit') : limit = limit' := by
  obtain ⟨r, hr, regular, hregular, heq⟩ := hlimit
  obtain ⟨r', hr', regular', hregular', heq'⟩ := hlimit'
  obtain rfl := Option.mem_unique hr hr'
  obtain rfl := hregular.unique hregular'
  ext
  rw [heq, heq']

theorem backoff_le (h : History) : h.backoff ≤ 25 * 60 * 1000000000 := by
  have hcount : min 5 h.streak ≤ 5 := Nat.min_le_left _ _
  have hsquare : min 5 h.streak ^ 2 ≤ 5 ^ 2 := Nat.pow_le_pow_left hcount 2
  unfold backoff
  omega

/-- No wait ends before the report that it follows. -/
theorem IsLimit.le (hlimit : h.IsLimit policy limit) {r : OutcomeReport} (hr : r ∈ h.getLast?) :
    r.now ≤ limit := by
  obtain ⟨r', hr', regular, hregular, heq⟩ := hlimit
  obtain rfl := Option.mem_unique hr hr'
  have hle := hregular.le
  rw [Instant.le_def] at hle ⊢
  split at heq <;> omega

/-- No wait after a failure is longer than 25 minutes. -/
theorem IsLimit.le_of_isFailure (hlimit : h.IsLimit policy limit) {r : OutcomeReport}
    (hr : r ∈ h.getLast?) (hfailure : r.outcome.isFailure) :
    limit.nanos ≤ r.now.nanos + 25 * 60 * 1000000000 := by
  obtain ⟨r', hr', regular, _, heq⟩ := hlimit
  obtain rfl := Option.mem_unique hr hr'
  rw [if_pos hfailure] at heq
  have hbackoff := h.backoff_le
  omega

end History

/-! ## Due states -/

namespace RefreshState

variable {s : RefreshState} {policy : CachePolicy} {marked : Bool} {h : History}

theorem isDue_iff {now : Instant} :
    s.isDue now ↔ s.policy.isNever = false ∧ ∀ next ∈ s.nextUpdate, next < now := by
  unfold isDue
  cases s.policy.isNever <;> cases s.nextUpdate <;> simp

/-- What is due stays due until it is updated. -/
theorem isDue_mono {now later : Instant} (hle : now ≤ later) (hdue : s.isDue now) :
    s.isDue later := by
  obtain ⟨hnever, hnext⟩ := isDue_iff.1 hdue
  refine isDue_iff.2 ⟨hnever, fun next hmem => ?_⟩
  have hlt := hnext next hmem
  rw [Instant.lt_def] at hlt ⊢
  rw [Instant.le_def] at hle
  omega

/-- A state without reports has no next update. -/
theorem DescribedBy.nextUpdate_eq_none (hs : s.DescribedBy policy marked []) :
    s.nextUpdate = none :=
  (Except.ok.inj hs.next_eq).symm

/-- After some reports, the last of them at an inner instant, the next update is their limit. -/
theorem DescribedBy.exists_isLimit (hs : s.DescribedBy policy marked h)
    (hnever : policy.isNever = false) {r : OutcomeReport} (hr : r ∈ h.getLast?)
    (hnow : r.now.IsInner) : ∃ limit, s.nextUpdate = some limit ∧ h.IsLimit policy limit := by
  obtain ⟨regular, hupdate, hregular⟩ := CachePolicy.exists_isRegular hnever r.offset hnow
  have hlast : h.getLast? = some r := hr
  have hnext := hs.next_eq
  unfold History.next at hnext
  rw [hlast] at hnext
  dsimp only at hnext
  cases houtcome : r.outcome with
  | success =>
    rw [houtcome, hupdate] at hnext
    refine ⟨regular, (Except.ok.inj hnext).symm, r, hr, regular, hregular, ?_⟩
    rw [houtcome]
    rfl
  | partialFailure | totalFailure =>
    -- An inner instant has room for the longest wait, so that the retry is in range.
    have hmargin : Instant.margin = 15 * 86400 * 1000000000 := rfl
    have hbackoff := h.backoff_le
    obtain ⟨retry, hretry, hnanos⟩ := hnow.exists_shift h.backoff (by omega) (by omega)
    have hshift : h.retry r.now = .ok retry := hretry
    rw [houtcome, hshift, hupdate] at hnext
    refine ⟨min retry regular, (Except.ok.inj hnext).symm, r, hr, regular, hregular, ?_⟩
    rw [houtcome, Instant.nanos_min, hnanos, min_comm]
    rfl

/-- A state is due before any report, and after the limit of its reports. -/
theorem DescribedBy.isDue_iff (hs : s.DescribedBy policy marked h)
    (hnever : policy.isNever = false) (hinner : ∀ r ∈ h.getLast?, r.now.IsInner)
    (now : Instant) :
    s.isDue now ↔ h = [] ∨ ∃ limit, h.IsLimit policy limit ∧ limit < now := by
  rw [RefreshState.isDue_iff, hs.policy_eq]
  cases hlast : h.getLast? with
  | none =>
    obtain rfl := List.getLast?_eq_none_iff.1 hlast
    simp [hnever, hs.nextUpdate_eq_none]
  | some r =>
    obtain ⟨limit, hnext, hlimit⟩ := hs.exists_isLimit hnever hlast (hinner r hlast)
    constructor
    · rintro ⟨_, hlt⟩
      exact .inr ⟨limit, hlimit, hlt limit hnext⟩
    · rintro (rfl | ⟨limit', hlimit', hlt⟩)
      · cases hlast
      · obtain rfl := hlimit'.unique hlimit
        refine ⟨hnever, fun next hmem => ?_⟩
        obtain rfl := Option.mem_unique hmem hnext
        exact hlt

/-- So a state that is not due has a limit, and it is not over. -/
theorem DescribedBy.exists_isLimit_of_not_isDue (hs : s.DescribedBy policy marked h)
    (hnever : policy.isNever = false) (hinner : ∀ r ∈ h.getLast?, r.now.IsInner) {now : Instant}
    (hidle : s.isDue now = false) : ∃ limit, h.IsLimit policy limit ∧ now ≤ limit := by
  have hnot : ¬ (h = [] ∨ ∃ limit, h.IsLimit policy limit ∧ limit < now) := by
    rw [← hs.isDue_iff hnever hinner, hidle]
    exact Bool.false_ne_true
  rw [not_or] at hnot
  obtain ⟨hne, hnone⟩ := hnot
  obtain ⟨r, hr⟩ := Option.ne_none_iff_exists'.1 (mt List.getLast?_eq_none_iff.1 hne)
  obtain ⟨limit, _, hlimit⟩ := hs.exists_isLimit hnever hr (hinner r hr)
  refine ⟨limit, hlimit, ?_⟩
  rw [Instant.le_def]
  by_contra hover
  exact hnone ⟨limit, hlimit, Instant.lt_def.2 (by omega)⟩

/-- A report at an inner instant to a state whose policy asks for updates schedules the next one,
and not for a time before the report. -/
theorem exists_nextUpdate_report (hnever : s.policy.isNever = false) (outcome : Outcome)
    (offset : Int) {now : Instant} (hnow : now.IsInner) :
    ∃ next, (s.report outcome offset now).state.nextUpdate = some next ∧ now ≤ next := by
  obtain ⟨regular, hupdate, hregular⟩ := CachePolicy.exists_isRegular hnever offset hnow
  have hle := hregular.le
  cases outcome with
  | success => exact ⟨regular, report_nextUpdate hupdate, hle⟩
  | partialFailure | totalFailure =>
    have hmargin : Instant.margin = 15 * 86400 * 1000000000 := rfl
    have hminutes : s.countFailure.retryMinutes ≤ 25 := countFailure_retryMinutes_le
    obtain ⟨retry, hretry, hnanos⟩ :=
      hnow.exists_shift (s.countFailure.retryMinutes * 60 * 1000000000) (by omega) (by omega)
    refine ⟨min retry regular, report_nextUpdate ?_, ?_⟩
    · rw [schedule_of_isFailure rfl, hretry, hupdate]
      rfl
    · rw [Instant.le_def] at hle ⊢
      rw [Instant.nanos_min]
      omega

/-- So it is not due up to that time. -/
theorem isDue_report_eq_false (hnever : s.policy.isNever = false) (outcome : Outcome) (offset : Int)
    {now time : Instant} (htime : time.IsInner) (hle : now ≤ time) :
    (s.report outcome offset time).state.isDue now = false := by
  obtain ⟨next, hnext, hlater⟩ := exists_nextUpdate_report hnever outcome offset htime
  rw [← Bool.not_eq_true, RefreshState.isDue_iff]
  rintro ⟨_, hdue⟩
  have hlt := hdue next hnext
  rw [Instant.lt_def] at hlt
  rw [Instant.le_def] at hle hlater
  omega

end RefreshState

end DashboardRefresh
