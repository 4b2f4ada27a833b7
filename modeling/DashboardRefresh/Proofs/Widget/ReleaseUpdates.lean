import DashboardRefresh.Proofs.Board.UpdateCycle
import DashboardRefresh.Proofs.Release.NewestFirst
import DashboardRefresh.Proofs.Widget.Arrivals

/-!
# Updates of release lists

An update of a list of releases that is not cancelled looks up all entries. If every lookup fails,
the list stays as it was next to an error that counts them; otherwise the list is a selection of
what was found, and the lookups that failed are counted in a notice. In which order the answers
arrive has no part in it.
-/

namespace DashboardRefresh

namespace ReleaseList

/-- How many lookups fail. -/
def failedCount (l : ReleaseList) (s : Surroundings) : Nat := (l.results s).countP (!·.isOk)

/-- The releases that are found, in the order of their entries. -/
def found (l : ReleaseList) (s : Surroundings) : List Release :=
  (l.results s).filterMap (·.toOption)

theorem length_results (l : ReleaseList) (s : Surroundings) :
    (l.results s).length = l.entries.length := by
  simp [results]

/-- Every lookup finds a release or fails. -/
theorem length_found_add_failedCount (l : ReleaseList) (s : Surroundings) :
    (l.found s).length + l.failedCount s = l.entries.length := by
  rw [← l.length_results s, found, failedCount]
  induction l.results s with
  | nil => rfl
  | cons result results ih =>
    rw [List.countP_cons, List.length_cons, ← ih]
    cases result with
    | ok release => simp [Except.toOption, Except.isOk, Except.toBool]; omega
    | error e => simp [Except.toOption, Except.isOk, Except.toBool]; omega

/-- The outcome of an update by how many of its lookups fail. -/
def outcomeOf (n failed : Nat) : Outcome :=
  if failed = n then .totalFailure (.noContent ("all " ++ toString n ++ " releases failed"))
  else if 0 < failed then .partialFailure (.partialContent failed n "releases")
  else .success

section Outcomes

variable {n failed : Nat}

theorem keepsData_outcomeOf : (outcomeOf n failed).keepsData ↔ failed ≠ n := by
  unfold outcomeOf
  split
  · simp [Outcome.keepsData, *]
  · split <;> simp [Outcome.keepsData, *]

theorem error?_outcomeOf (hsome : failed ≠ n) : (outcomeOf n failed).error? = none := by
  rw [outcomeOf, if_neg hsome]
  split <;> rfl

theorem notice?_outcomeOf (hsome : failed ≠ n) :
    (outcomeOf n failed).notice? =
      if 0 < failed then some (.partialContent failed n "releases") else none := by
  rw [outcomeOf, if_neg hsome]
  split <;> rfl

theorem pos_of_isFailure_outcomeOf (hsome : failed ≠ n) (h : (outcomeOf n failed).isFailure) :
    0 < failed := by
  by_contra hzero
  rw [outcomeOf, if_neg hsome, if_neg hzero] at h
  cases h

end Outcomes

/-- As many releases are kept as are found, up to the limit. -/
theorem length_select_found (l : ReleaseList) (s : Surroundings) :
    (select l.limit (l.found s)).length = min l.limit (l.entries.length - l.failedCount s) := by
  have hsum := l.length_found_add_failedCount s
  rw [(isSelection_select l.limit (l.found s)).length_eq]
  congr 1
  omega

section Lookups

variable {l : ReleaseList} {s : Surroundings}

/-- The batch of an update that is not cancelled, by what its lookups give. -/
theorem lookUp_never (hnever : s.cancellation = .never) :
    let batch := (l.lookUp s.network s.requestTimeout s.cancellation).batch
    batch.interrupted = none ∧ batch.size = l.entries.length ∧
      batch.failedCount = l.failedCount s ∧ batch.kept = l.found s := by
  have hresults : (l.entries.map fun e => e.lookup l.endpoints s.network s.requestTimeout).map
      (·.result) = l.results s := by
    rw [List.map_map]
    rfl
  have hnone : (l.lookUp s.network s.requestTimeout s.cancellation).batch.interrupted = none := by
    rw [hnever]
    exact runAttempts_never_interrupted
  refine ⟨hnone, ?_, ?_, ?_⟩ <;> unfold lookUp at hnone ⊢
  · rw [Batch.size, runAttempts_outputs hnone, List.length_map, List.length_map]
  · rw [runAttempts_failedCount hnone, hresults]
    rfl
  · rw [runAttempts_kept hnone, hresults]
    rfl

theorem releasesCycle_outcome (hentries : l.entries ≠ []) (hnever : s.cancellation = .never) :
    (Content.releasesCycle l s).outcome = outcomeOf l.entries.length (l.failedCount s) := by
  obtain ⟨hnone, hsize, hfailed, _⟩ := lookUp_never (l := l) hnever
  have hpos : 0 < l.entries.length := List.length_pos_iff.2 hentries
  change Outcome.ofResult
    ((l.lookUp s.network s.requestTimeout s.cancellation).batch.classify "releases") = _
  unfold Batch.classify outcomeOf
  rw [hnone, hsize, hfailed]
  dsimp only
  by_cases hall : l.failedCount s = l.entries.length
  · have htext : "all " ++ toString l.entries.length ++ " " ++ "releases" ++ " failed" =
        "all " ++ toString l.entries.length ++ " releases failed" := by
      rw [String.append_assoc, String.append_assoc]
      rfl
    rw [if_pos ⟨hpos, hall⟩, if_pos hall, htext]
    rfl
  · rw [if_neg fun h => hall h.2, if_neg hall]
    split <;> simp [Outcome.ofResult, FetchError.isPartial]

theorem releasesCycle_content (hnever : s.cancellation = .never) :
    (Content.releasesCycle l s).content =
      .releases { l with releases := select l.limit (l.found s) } := by
  obtain ⟨_, _, _, hkept⟩ := lookUp_never (l := l) hnever
  change Content.releases
    (l.store (l.lookUp s.network s.requestTimeout s.cancellation).batch) = _
  rw [store, hkept]

end Lookups

end ReleaseList

namespace Leaf

variable {l : Leaf} {list : ReleaseList} {s : Surroundings}

/-- The order in which the answers arrive has no part in an update of releases that is not
cancelled. -/
theorem updateArriving_leaf_of_releases (hcontent : l.content = .releases list)
    (hnever : s.cancellation = .never) (times : Nat → Nat) :
    (l.updateArriving times s).leaf = (l.update s).leaf := by
  have harriving : l.updateArriving times s =
      l.finish s (Content.lookedUpCycle list (list.lookUpArriving times s)) := by
    unfold updateArriving
    rw [hcontent]
  rw [harriving, update_of_releases hcontent]
  unfold finish
  cases s.clock.read with
  | error => rfl
  | ok now =>
    unfold Content.lookedUpCycle Content.releasesCycle
    dsimp only
    rw [ReleaseList.lookUpArriving_batch hnever]

/-- The leaf after an update of releases, unless there are new releases and no room to report
them. -/
theorem update_leaf_of_releases (hcontent : l.content = .releases list)
    (hentries : list.entries ≠ []) (hnever : s.cancellation = .never) {now : Instant}
    (hread : s.clock.read = .ok now)
    (hroom : list.failedCount s ≠ list.entries.length → l.base.refresh.HasRoom
      (ReleaseList.outcomeOf list.entries.length (list.failedCount s)) s.offset now) :
    (l.update s).leaf.base.refresh =
        (l.base.refresh.report (ReleaseList.outcomeOf list.entries.length (list.failedCount s))
          s.offset now).state ∧
      (l.update s).leaf.content =
        if list.failedCount s = list.entries.length then l.content
        else .releases
          { list with releases := ReleaseList.select list.limit (list.found s) } := by
  have houtcome := ReleaseList.releasesCycle_outcome hentries hnever
  have hupdate : (l.update s).leaf = l.reported s.offset (Content.releasesCycle list s) now := by
    rw [update_of_releases hcontent]
    apply finish_leaf_of_hasRoom hread
    rw [houtcome]
    exact fun hkeeps => hroom (ReleaseList.keepsData_outcomeOf.1 hkeeps)
  rw [hupdate]
  unfold reported
  dsimp only
  rw [houtcome, ReleaseList.releasesCycle_content hnever]
  refine ⟨rfl, ?_⟩
  by_cases hall : list.failedCount s = list.entries.length
  · rw [if_neg fun hkeeps => ReleaseList.keepsData_outcomeOf.1 hkeeps hall, if_pos hall]
  · rw [if_pos (ReleaseList.keepsData_outcomeOf.2 hall), if_neg hall]

/-- A report on releases that are found has room, where one with a notice has 25 minutes. -/
theorem hasRoom_of_releases (hl : l.IsReachable) (hcontent : l.content = .releases list)
    {n failed : Nat} (hsome : failed ≠ n) {offset : Int} {now : Instant}
    (hmargin : 0 < failed → now.nanos + 25 * 60 * 1000000000 ≤ Instant.latestNanos) :
    l.base.refresh.HasRoom (ReleaseList.outcomeOf n failed) offset now := by
  have hkind : l.kind = .releases := by
    rw [kind, hcontent]
    rfl
  have hpolicy : l.base.refresh.policy ≠ .hourly :=
    hl.policy_ne_hourly (by rw [hkind]; decide)
  exact RefreshState.hasRoom_of_ne_hourly hpolicy fun hfailure =>
    hmargin (ReleaseList.pos_of_isFailure_outcomeOf hsome hfailure)

/-- An update of a list of releases that is not cancelled, under a clock that can be read. If every
lookup fails, an error says how many, and the list is what it was; otherwise the list is a selection
of what was found, and a notice counts the lookups that failed, if any. An update with a notice
plans a retry and has to be 25 minutes before the end of the range. The order in which the answers
arrive has no part in it. Under a clock that cannot be read nothing changes. -/
theorem update_selects_newest (hl : l.IsReachable) (hcontent : l.content = .releases list)
    (hnever : s.cancellation = .never) (times : Nat → Nat) :
    let n := list.entries.length
    let failed := list.failedCount s
    let after := (l.updateArriving times s).leaf
    (0 ≤ s.clock.nanos → s.clock.nanos ≤ Instant.latestNanos →
      (failed = n →
        after.base.refresh.lastError =
            some (.noContent ("all " ++ toString n ++ " releases failed")) ∧
          after.base.refresh.lastNotice = none ∧ after.content = l.content) ∧
      (failed ≠ n →
        (0 < failed → s.clock.nanos + 25 * 60 * 1000000000 ≤ Instant.latestNanos) →
        after.base.refresh.lastError = none ∧
          after.base.refresh.lastNotice =
            (if 0 < failed then some (.partialContent failed n "releases") else none) ∧
          ∃ kept, after.content = .releases { list with releases := kept } ∧
            ReleaseList.IsSelection list.limit (list.found s) kept ∧
            kept.length = min list.limit (n - failed) ∧ 1 ≤ kept.length)) ∧
      (¬ (0 ≤ s.clock.nanos ∧ s.clock.nanos ≤ Instant.latestNanos) → after = l) ∧
      after = (l.update s).leaf := by
  intro n failed after
  have hafter : after = (l.update s).leaf := updateArriving_leaf_of_releases hcontent hnever times
  have hvalid := hl.wellFormed.isValid
  rw [hcontent] at hvalid
  obtain ⟨hentries, hlimit⟩ := hvalid
  refine ⟨fun hepoch hlatest => ?_, fun hunreadable => ?_, hafter⟩
  · obtain ⟨now, hread⟩ := Clock.exists_read_eq_ok_iff.2 ⟨hepoch, hlatest⟩
    refine ⟨fun hall => ?_, fun hsome hmargin => ?_⟩
    · obtain ⟨hrefresh, hdata⟩ := update_leaf_of_releases hcontent hentries hnever hread
        fun hsome => absurd hall hsome
      rw [hafter, hrefresh, RefreshState.report_lastError, RefreshState.report_lastNotice, hdata,
        ReleaseList.outcomeOf, if_pos hall, if_pos hall]
      exact ⟨rfl, rfl, rfl⟩
    · rw [← s.clock.nanos_of_read hread] at hmargin
      obtain ⟨hrefresh, hdata⟩ := update_leaf_of_releases hcontent hentries hnever hread
        fun _ => hasRoom_of_releases hl hcontent hsome hmargin
      have hlength := list.length_select_found s
      rw [hafter, hrefresh, hdata, if_neg hsome]
      refine ⟨?_, ?_, _, rfl, ReleaseList.isSelection_select _ _, hlength, ?_⟩
      · rw [RefreshState.report_lastError, ReleaseList.error?_outcomeOf hsome]
      · rw [RefreshState.report_lastNotice, ReleaseList.notice?_outcomeOf hsome]
      · have hsum := list.length_found_add_failedCount s
        rw [hlength]
        omega
  · cases hread : s.clock.read with
    | ok now => exact absurd (Clock.exists_read_eq_ok_iff.1 ⟨now, hread⟩) hunreadable
    | error e =>
      rw [hafter]
      exact update_leaf_of_read_eq_error hread

/-- Three repositories at a mirror. -/
def shelf : ReleaseList where
  entries := [⟨.github, "a/old"⟩, ⟨.github, "a/new"⟩, ⟨.github, "a/gone"⟩]
  endpoints := ⟨[(.github, "http://a.test")], none, none⟩
  limit := 10
  releases := []

/-- The answer that tells of a release at a date. -/
def releasedAt (date : String) : Answer :=
  let dated := "\"published_at\": \"" ++ date ++ "\""
  let text := "\x7b\"tag_name\": \"1\", \"html_url\": \"u\", " ++ dated ++ "\x7d"
  .response 200 (text.toList.map fun c => c.toNat.toUInt8)

/-- What an update meets when the mirror knows two of the repositories. -/
def shelved : Surroundings where
  clock := .setTo .epoch
  offset := 0
  network := .ofTable
    [("http://a.test/repos/a/old/releases/latest", releasedAt "2023-05-20T08:00:00Z"),
      ("http://a.test/repos/a/new/releases/latest", releasedAt "2024-05-20T08:00:00Z")]
  requestTimeout := .ofSeconds 10
  cancellation := .never
  answerCounts _ := true

/-- A list of releases at the shelf that has been built and not been updated yet. -/
def newShelf : Leaf :=
  ⟨.ofConfig 1 .releases ⟨none, none, false, none, none⟩, .releases shelf⟩

theorem newShelf_isReachable : newShelf.IsReachable := by
  let config : ReleasesConfig :=
    ⟨["a/old", "a/new", "a/gone"], none, none, [("github", "http://a.test")], none⟩
  have hbuilt : newShelf.IsBuilt := ⟨1, ⟨none, none, false, none, none⟩, .releases config, rfl, rfl⟩
  exact ⟨newShelf, hbuilt, .refl⟩

/-- In whatever order the answers arrive, two releases are kept, and a notice counts the third. -/
theorem update_selects_newest_shelf :
    newShelf.IsReachable ∧ newShelf.content = .releases shelf ∧ shelved.cancellation = .never ∧
      (shelf.found shelved).map (·.repository) = ["a/old", "a/new"] ∧ ∀ times,
        (newShelf.updateArriving times shelved).leaf.base.refresh.lastNotice =
            some (.partialContent 1 3 "releases") ∧
          ∃ kept, (newShelf.updateArriving times shelved).leaf.content =
              .releases { shelf with releases := kept } ∧
            ReleaseList.IsSelection 10 (shelf.found shelved) kept ∧ kept.length = 2 := by
  have hfound : (shelf.found shelved).map (·.repository) = ["a/old", "a/new"] := by decide +kernel
  have hfailed : shelf.failedCount shelved = 1 := by
    have hlength : (shelf.found shelved).length = 2 := by
      rw [← List.length_map (·.repository), hfound]
      rfl
    have hsum := shelf.length_found_add_failedCount shelved
    rw [hlength, show shelf.entries.length = 3 from rfl] at hsum
    omega
  have hcontent : newShelf.content = .releases shelf := rfl
  have hnever : shelved.cancellation = .never := rfl
  refine ⟨newShelf_isReachable, hcontent, hnever, hfound, fun times => ?_⟩
  obtain ⟨hupdate, _⟩ := update_selects_newest newShelf_isReachable hcontent hnever times
  obtain ⟨_, hkeeps⟩ := hupdate (by decide) (by decide)
  obtain ⟨_, hnotice, kept, hkept, hselection, hlength, _⟩ :=
    hkeeps (by rw [hfailed]; decide) fun _ => by decide
  rw [hfailed] at hnotice hlength
  exact ⟨hnotice, kept, hkept, hselection, hlength⟩

/-- A day before the epoch no lookup of the shelf succeeds, and no error says so. -/
theorem update_selects_newest_not_dayBeforeEpoch :
    newShelf.IsReachable ∧ newShelf.content = .releases shelf ∧
      dayBeforeEpoch.cancellation = .never ∧
      shelf.failedCount dayBeforeEpoch = shelf.entries.length ∧
      ∀ times, (newShelf.updateArriving times dayBeforeEpoch).leaf.base.refresh.lastError ≠
        some (.noContent ("all " ++ toString shelf.entries.length ++ " releases failed")) := by
  refine ⟨newShelf_isReachable, rfl, rfl, by decide +kernel, fun times => ?_⟩
  have hread : dayBeforeEpoch.clock.read = .error .outOfRange := if_pos (by decide)
  have hafter : (newShelf.updateArriving times dayBeforeEpoch).leaf = newShelf :=
    finish_leaf_of_read_eq_error hread
  have hnone : newShelf.base.refresh.lastError = none := by
    simp [newShelf, WidgetBase.ofConfig_refresh, RefreshState.initial]
  rw [hafter, hnone]
  exact (Option.some_ne_none _).symm

end Leaf

end DashboardRefresh
