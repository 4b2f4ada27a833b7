import DashboardRefresh.Proofs.Board.Reachable
import DashboardRefresh.Proofs.Refresh.Room

/-!
# When answers arrive

The answers to the requests of one update can arrive after any times at all, and so in any order.
An update with given times of arrival is defined for every leaf, and every update is one for the
times that its network takes. The times have a part in when a batch is over and in what a
cancellation cuts off. In a batch that was not interrupted they are shown with the sites of a
monitor, and have no other part.
-/

namespace DashboardRefresh

variable {ε α : Type}

/-! ## Attempts -/

namespace Attempt

/-- Attempts whose results are there after the given times, by position. -/
def arriving (times : Nat → Nat) (attempts : List (Attempt α)) : List (Attempt α) :=
  attempts.mapIdx fun i a => { a with waited := times i }

theorem arriving_result (times : Nat → Nat) (attempts : List (Attempt α)) :
    (arriving times attempts).map (·.result) = attempts.map (·.result) := by
  apply List.ext_getElem?
  intro i
  simp only [arriving, List.getElem?_map, List.getElem?_mapIdx, Option.map_map]
  rfl

/-- Attempts take the times that they take. -/
theorem exists_arriving_eq (attempts : List (Attempt α)) :
    ∃ times, arriving times attempts = attempts := by
  refine ⟨fun i => (attempts[i]?.map (·.waited)).getD 0, ?_⟩
  apply List.ext_getElem?
  intro i
  rw [arriving, List.getElem?_mapIdx]
  cases attempts[i]? <;> rfl

theorem task_ending_eq (a : Attempt (Except ε α)) :
    a.task.ending = match a.result with
      | .ok value => .value value
      | .error error => .error error := rfl

theorem inTurn_arriving (times : Nat → Nat) (attempts : List (Attempt (Except ε α))) :
    Batch.inTurn ((arriving times attempts).map task) = Batch.inTurn (attempts.map task) := by
  apply Batch.inTurn_congr
  have hresults := congrArg (List.map fun result : Except ε α =>
    match result with
    | .ok value => Ending.value value
    | .error error => .error error) (arriving_result times attempts)
  simpa only [List.map_map, Function.comp_def, task_ending_eq] using hresults

end Attempt

/-- A batch that was not interrupted does not depend on when the results were there. -/
theorem runAttempts_arriving_batch {workers : Nat} {cancellation : Cancellation}
    {times : Nat → Nat} {attempts : List (Attempt (Except ε α))}
    (hnone : (runAttempts workers cancellation
      (Attempt.arriving times attempts)).batch.interrupted = none) :
    (runAttempts workers cancellation (Attempt.arriving times attempts)).batch =
      (runAttempts workers .never attempts).batch := by
  rw [runAttempts_batch hnone, runAttempts_batch runAttempts_never_interrupted,
    Attempt.inTurn_arriving]

/-! ## Batches of widgets -/

/-- The status that the same answer has after another time. -/
def SiteStatus.timed (status : SiteStatus) (millis : Nat) : SiteStatus :=
  { status with responseMillis := min millis (Word.unsignedLimit - 1) }

namespace SiteConfig

/-- Check the site, the answer arriving after some time. -/
def checkArriving (site : SiteConfig) (network : Network) (millis : Nat) : Attempt SiteStatus :=
  let checked := site.check network
  { checked with result := checked.result.timed millis, waited := millis }

/-- A check shows the time that it takes. -/
theorem checkArriving_waited (site : SiteConfig) (network : Network) :
    site.checkArriving network (site.check network).waited = site.check network := by
  unfold checkArriving check
  cases site.request with
  | error => rfl
  | ok r =>
    dsimp only
    unfold statusOf
    cases (r.send network).result <;> rfl

end SiteConfig

namespace Monitor

/-- Check all sites, the answers arriving after the given times. -/
def checkArriving (m : Monitor) (times : Nat → Nat) (s : Surroundings) :
    BatchRun FetchError SiteStatus :=
  runAttempts workers s.cancellation
    (m.sites.mapIdx fun i site => (site.config.checkArriving s.network (times i)).map .ok)

/-- Checks take the times that they take. -/
theorem exists_checkArriving_eq (m : Monitor) (s : Surroundings) :
    ∃ times, m.checkArriving times s = m.check s.network s.cancellation := by
  refine ⟨fun i => (m.sites[i]?.map fun site => (site.config.check s.network).waited).getD 0, ?_⟩
  refine congrArg (runAttempts workers s.cancellation) (List.ext_getElem? fun i => ?_)
  rw [List.getElem?_mapIdx, List.getElem?_map]
  dsimp only
  cases m.sites[i]? with
  | none => rfl
  | some site =>
    rw [Option.map_some, Option.map_some, Option.map_some, Option.getD_some,
      site.config.checkArriving_waited]

/-- The monitor after a check of all its sites, with the times of the answers. -/
def checkedArriving (m : Monitor) (times : Nat → Nat) (network : Network) : Monitor :=
  { m with
    sites := m.sites.mapIdx fun i site =>
      { site with status := some (site.config.checkArriving network (times i)).result } }

end Monitor

/-- Look up all releases, the answers arriving after the given times. -/
def ReleaseList.lookUpArriving (l : ReleaseList) (times : Nat → Nat) (s : Surroundings) :
    BatchRun FetchError Release :=
  runAttempts workers s.cancellation
    (Attempt.arriving times (l.entries.map fun e =>
      e.lookup l.endpoints s.network s.requestTimeout))

variable {times : Nat → Nat} {s : Surroundings}

namespace Monitor

variable {m : Monitor}

theorem checkArriving_failedCount
    (hnone : (m.checkArriving times s).batch.interrupted = none) :
    (m.checkArriving times s).batch.failedCount = 0 := by
  refine runAttempts_failedCount_eq_zero hnone fun a ha => ?_
  obtain ⟨i, _, rfl⟩ := List.mem_mapIdx.1 ha
  rfl

/-- Storing a batch of checks that was not interrupted checks all sites. -/
theorem store_checkArriving (hnone : (m.checkArriving times s).batch.interrupted = none) :
    m.store (m.checkArriving times s).batch = m.checkedArriving times s.network := by
  refine Content.store_eq_of_slotAt (fun i site hsite => ?_) (fun _ => List.getElem?_mapIdx) rfl
  refine runAttempts_slotAt
    (a := (site.config.checkArriving s.network (times i)).map .ok) hnone ?_ rfl
  rw [List.getElem?_mapIdx, hsite]
  rfl

end Monitor

theorem ReleaseList.lookUpArriving_batch {l : ReleaseList} (hnever : s.cancellation = .never) :
    (l.lookUpArriving times s).batch =
      (l.lookUp s.network s.requestTimeout s.cancellation).batch := by
  unfold lookUpArriving lookUp
  rw [hnever]
  exact runAttempts_arriving_batch runAttempts_never_interrupted

/-! ## Updates -/

/-- A clock can be read from the epoch to the end of the range. -/
theorem Clock.exists_read_eq_ok_iff {c : Clock} :
    (∃ now, c.read = .ok now) ↔ 0 ≤ c.nanos ∧ c.nanos ≤ Instant.latestNanos := by
  constructor
  · rintro ⟨now, hread⟩
    have hepoch : ¬ c.nanos < 0 := by
      intro hbefore
      rw [read, if_pos hbefore] at hread
      cases hread
    rw [← c.nanos_of_read hread]
    exact ⟨by rw [c.nanos_of_read hread]; omega, now.le_latest⟩
  · rintro ⟨hepoch, hlatest⟩
    have hearliest : Instant.earliestNanos ≤ 0 := by decide
    let now : Instant := ⟨c.nanos, by omega, hlatest⟩
    exact ⟨now, read_setTo (i := now) hepoch⟩

namespace Content

/-- The cycle of a monitor that has made its checks. -/
def checkedCycle (m : Monitor) (run : BatchRun FetchError SiteStatus) : Cycle :=
  ⟨Outcome.ofResult (run.batch.classify "site checks"), monitor (m.store run.batch), false,
    run.sent, run.waited, run.connected⟩

/-- The cycle of a list of releases that has made its lookups. -/
def lookedUpCycle (l : ReleaseList) (run : BatchRun FetchError Release) : Cycle :=
  ⟨Outcome.ofResult (run.batch.classify "releases"), releases (l.store run.batch), false, run.sent,
    run.waited, run.connected⟩

end Content

namespace Leaf

/-- One update cycle, the answers of a batch arriving after the given times. -/
def updateArriving (l : Leaf) (times : Nat → Nat) (s : Surroundings) : LeafUpdate :=
  match l.content with
  | .monitor m => l.finish s (Content.checkedCycle m (m.checkArriving times s))
  | .releases list => l.finish s (Content.lookedUpCycle list (list.lookUpArriving times s))
  | _ => l.update s

/-- An update is one with the times that its network takes. -/
theorem exists_updateArriving_eq (l : Leaf) (s : Surroundings) :
    ∃ times, l.updateArriving times s = l.update s := by
  unfold updateArriving update cycle
  cases l.content with
  | html | calendar | customApi => exact ⟨fun _ => 0, rfl⟩
  | monitor m =>
    obtain ⟨times, htimes⟩ := m.exists_checkArriving_eq s
    refine ⟨times, ?_⟩
    simp only [htimes]
    rfl
  | releases list =>
    obtain ⟨times, htimes⟩ := Attempt.exists_arriving_eq
      (list.entries.map fun e => e.lookup list.endpoints s.network s.requestTimeout)
    refine ⟨times, ?_⟩
    simp only [ReleaseList.lookUpArriving, htimes]
    rfl

/-! ## Reports -/

variable {l : Leaf}

/-- A report with room comes to its end, and one that keeps no data has none to lose. -/
theorem finish_leaf_of_hasRoom {c : Cycle} {now : Instant} (hread : s.clock.read = .ok now)
    (hroom : c.outcome.keepsData → l.base.refresh.HasRoom c.outcome s.offset now) :
    (l.finish s c).leaf = l.reported s.offset c now := by
  unfold finish
  rw [hread]
  by_cases hkeeps : c.outcome.keepsData
  · have hcomplete : (l.base.refresh.report c.outcome s.offset now).complete :=
      RefreshState.report_complete_iff.2 (RefreshState.exists_schedule_iff.2 (hroom hkeeps))
    simp [hcomplete, reported]
  · simp [hkeeps, reported]

theorem finish_leaf_of_read_eq_error {c : Cycle} {e : OutOfRange} (h : s.clock.read = .error e) :
    (l.finish s c).leaf = l := by
  unfold finish
  rw [h]

theorem finish_policy (l : Leaf) (s : Surroundings) (c : Cycle) :
    (l.finish s c).leaf.base.refresh.policy = l.base.refresh.policy := by
  unfold finish
  cases s.clock.read with
  | error => rfl
  | ok now => exact RefreshState.report_policy

theorem update_policy (l : Leaf) (s : Surroundings) :
    (l.update s).leaf.base.refresh.policy = l.base.refresh.policy := by
  unfold update
  cases l.cycle s with
  | none => rfl
  | some r =>
    cases r with
    | error => rfl
    | ok c => exact l.finish_policy s c

/-- No update turns content into that of another kind. -/
theorem WellFormed.kind_update (hl : l.WellFormed) (s : Surroundings) :
    (l.update s).leaf.kind = l.kind := by
  unfold Leaf.update
  cases hcycle : l.cycle s with
  | none => rfl
  | some r =>
    cases r with
    | error => rfl
    | ok c =>
      have hc : c.Completes l.content := Content.cycle_completes hl.isValid hcycle
      dsimp only
      unfold finish
      cases s.clock.read with
      | error => rfl
      | ok now =>
        unfold kind
        dsimp only
        split
        · exact hc.kind_eq
        · rfl

/-- Only calendars keep the full hours. -/
theorem IsReachable.policy_ne_hourly (hl : l.IsReachable) (hkind : l.kind ≠ .calendar) :
    l.base.refresh.policy ≠ .hourly := by
  obtain ⟨built, hbuilt, hreaches⟩ := hl
  have hsame : l.WellFormed ∧ l.kind = built.kind ∧
      l.base.refresh.policy = built.base.refresh.policy := by
    clear hkind
    induction hreaches with
    | refl => exact ⟨hbuilt.wellFormed, rfl, rfl⟩
    | tail _ hstep ih =>
      obtain ⟨hwell, hkind, hpolicy⟩ := ih
      obtain ⟨s, _, rfl⟩ := hstep
      exact ⟨hwell.update s, (hwell.kind_update s).trans hkind, (update_policy _ s).trans hpolicy⟩
  obtain ⟨_, hkind', hpolicy⟩ := hsame
  obtain ⟨id, common, config, hcontent, hbase⟩ := hbuilt
  rw [hkind', kind, Content.kind_of_ofConfig hcontent] at hkind
  rw [hpolicy, hbase]
  change (WidgetBase.ofConfig id config.kind common).refresh.policy ≠ .hourly
  rw [WidgetBase.ofConfig_refresh]
  change config.kind.defaultPolicy.override common.cache ≠ .hourly
  have hfixed (usual : Duration) :
      (CachePolicy.fixed usual).override common.cache ≠ .hourly := by
    unfold CachePolicy.override
    split
    · split <;> simp
    · simp
  cases config with
  | html => simp [LeafConfig.kind, WidgetKind.defaultPolicy, CachePolicy.override]
  | calendar => exact absurd rfl hkind
  | monitor | customApi | releases => exact hfixed _

end Leaf

end DashboardRefresh
